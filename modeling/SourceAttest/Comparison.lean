import SourceAttest.Action
import SourceAttest.Bytecode.Trailer
import SourceAttest.Repository.Store
import SourceAttest.Text.Search

/-!
# Comparing codes

Deployed code is compared with recompiled code in three tiers. Equal codes match exactly. Codes
that differ only in their trailers match partly. Codes whose trimmed forms have the same size may
still differ in values that are set when a contract is created; then the data of the creating
transaction decide.
-/
namespace SourceAttest

/-- What a comparison says: a status and, for an exact match by creation data, the arguments that
follow the creation code. -/
structure Verdict where
  status : MatchStatus
  constructorArgs : Option String
deriving Repr, DecidableEq

namespace Verdict

def noMatch : Verdict := ⟨.none, none⟩

def partly : Verdict := ⟨.partly, none⟩

def exact : Verdict := ⟨.exact, none⟩

end Verdict

/-- What follows the first characters of the creation data, if anything does. -/
def argsBehind (skipped : Nat) (creationData : String) : Option String :=
  match creationData.toList.drop skipped with
  | [] => none
  | suffix => some (String.ofList ('0' :: 'x' :: suffix))

/-- What follows the creation code in the creation data, if anything does. -/
def constructorArgs (creationData compiledCreation : String) : Option String :=
  argsBehind compiledCreation.length creationData

def constructorArgsOf (creationData compiledCreation : Json) :
    Except ShapeFault (Option String) := do
  let skipped ← compiledCreation.length
  match creationData with
  | .string data => return argsBehind skipped data
  | .unpaired data => return argsBehind skipped data.shown
  | .array items => if items.length ≤ skipped then return none else .error (.notText "list")
  | other => .error (.notSubscriptable other.kindName)

/-- The verdict by creation data, which may be followed by arguments. -/
def compareCreation (data : String) (compiledCreation : Option String) : Except ShapeFault Verdict :=
  match compiledCreation with
  -- Creation data that were found cannot be compared with nothing.
  | none => .error (.notStart "NoneType")
  | some creation =>
    if Text.startsWith creation data then .ok ⟨.exact, constructorArgs data creation⟩
    else if Text.startsWith (Bytecode.trim creation) data then .ok .partly
    else .ok .noMatch

/-- What the codes alone say: a verdict, or nothing if creation data must decide. -/
def compareRuntime (deployed : String) (compiledRuntime : Option String) :
    Except ShapeFault (Option Verdict) :=
  if compiledRuntime = some deployed then .ok (some .exact)
  else
    match compiledRuntime with
    | none => .error (.noLength "NoneType")
    | some runtime =>
      let trimmedDeployed := Bytecode.trim deployed
      let trimmedRuntime := Bytecode.trim runtime
      if trimmedDeployed = trimmedRuntime then .ok (some .partly)
      -- A code of another size is another program, and no creation data are asked for.
      else if trimmedDeployed.length ≠ trimmedRuntime.length then .ok (some .noMatch)
      else .ok none

/-- The creation data to compare with: those at hand if there are any, else fetched ones. Data that
cannot be found are no data. -/
def creationDataFor (known : Option String) (fetch : Action (Option String)) :
    Action (Option String) :=
  match known with
  | some data => if data = "" then fetched else pure (some data)
  | none => fetched
where
  fetched : Action (Option String) := do
    match ← fetch.attempt with
    | .ok data => pure data
    | .error fault =>
      if fault.kind = .creationDataNotFound then pure none else Action.fail fault

/-- Compare the code at an address with recompiled code. `fetch` is called at most once, and only
if neither the codes alone nor known creation data decide. -/
def compareBytecodes (deployed creationData compiledRuntime compiledCreation : Option String)
    (fetch : Action (Option String)) : Action Verdict :=
  match deployed.map Bytecode.normalize with
  | none => pure .noMatch
  | some deployed =>
    if deployed = "0x" then pure .noMatch
    else do
      match ← Action.ofShape (compareRuntime deployed (compiledRuntime.map Bytecode.normalize)) with
      | some verdict => pure verdict
      | none =>
        match (← creationDataFor creationData fetch).map Bytecode.normalize with
        | none => pure .noMatch
        | some data =>
          if data = "0x" then pure .noMatch
          else Action.ofShape (compareCreation data (compiledCreation.map Bytecode.normalize))

/-- Compare codes that are given as values. A deployed code that is absent or empty is no match,
whatever the others are. Creation data that count as absent are fetched. -/
def compareValues (deployed creationData compiledRuntime compiledCreation : Json)
    (fetch : Action (Option String)) : Action Verdict := do
  let deployed ← Action.ofShape (Bytecode.ofJson deployed)
  if (deployed.map Bytecode.normalize).getD "0x" = "0x" then pure .noMatch
  else
    let runtime ← Action.ofShape (Bytecode.ofJson compiledRuntime)
    let creation ← Action.ofShape (Bytecode.ofJson compiledCreation)
    if !creationData.isTruthy then compareBytecodes deployed none runtime creation fetch
    else
      match Bytecode.ofJson creationData with
      | .ok known => compareBytecodes deployed known runtime creation fetch
      -- Known data are looked at only where they decide, and their fault comes only then.
      | .error why =>
        compareBytecodes deployed none runtime creation (Action.fail (.shape why))

end SourceAttest
