import SourceAttest.Network.Rpc

/-!
# The block that created a contract

A node that knows the state at every block is asked for the code at an address. Halving the range
of blocks finds a block with code whose predecessor has none.
-/
namespace SourceAttest

def hasCodeAt (endpoint : Endpoint) (address : Json) (block : Int) : Action Bool := do
  return (← Rpc.codeAt endpoint address (.int block)) ≠ "0x"

/-- Halve the range from `low` to `high`, where `high` is known to pass the probe. -/
def searchRange (probe : Nat → Action Bool) (low high : Nat) : Action Nat :=
  if low < high then do
    let mid := (low + high) / 2
    if ← probe mid then searchRange probe low mid else searchRange probe (mid + 1) high
  else pure low
termination_by high - low
decreasing_by all_goals omega

/-- The lowest block that has code at an address, if code that is there once stays there. -/
def findCreationBlock (endpoint : Endpoint) (address : Json) : Action Nat := do
  let latest ← Rpc.blockNumber endpoint
  if ← hasCodeAt endpoint address latest then
    searchRange (fun block => hasCodeAt endpoint address block) 0 latest.toNat
  else Action.fail (Fault.namingBlock (.strategy (.noCode address latest)) latest)

end SourceAttest
