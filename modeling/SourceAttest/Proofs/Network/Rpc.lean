import SourceAttest.Network.Rpc
import SourceAttest.Proofs.Action

/-!
# One call of a node

A call of a node sends one request, whatever the node answers, and leaves everything else in the
session as it was. The main result is `currentCode_run`, for the code at an address.
-/
namespace SourceAttest.Rpc

open SourceAttest.Action

def requestOf (endpoint : Endpoint) (method params timeout : Json) (number : Nat) : HttpRequest :=
  ⟨.post, endpoint, some (envelope method params number), timeout⟩

/-- The session after one more call of a node. -/
def afterCall (endpoint : Endpoint) (method params timeout : Json) (session : Session) : Session :=
  { session with
    rpcCalls := session.rpcCalls + 1
    requests := session.requests ++
      [requestOf endpoint method params timeout (session.rpcCalls + 1)] }

theorem call_run (endpoint : Endpoint) (method params timeout : Json) (world : World)
    (session : Session) :
    call endpoint method params timeout world session
      = ((bodyOf method (world.network session.requests
          (requestOf endpoint method params timeout (session.rpcCalls + 1)))).bind (resultOf method),
        afterCall endpoint method params timeout session) := by
  have counted : nextCallNumber world session
      = (.ok (session.rpcCalls + 1), { session with rpcCalls := session.rpcCalls + 1 }) := rfl
  rw [call, bind_of_ok counted, bind_of_ok rfl, ofExcept_run]
  rfl

/-- The code that the result of a call tells; an empty one is `0x`. -/
def codeIn (result : Json) : Except Fault String :=
  if !result.isTruthy then .ok "0x"
  else ((result.text "lower").mapError .shape).map Text.lower

theorem codeAt_run (endpoint : Endpoint) (address block : Json) (world : World) (session : Session) :
    codeAt endpoint address block world session
      = ((call endpoint (.string "eth_getCode") (.array [address, blockParam block])
          defaultTimeout world session).1.bind codeIn,
        (call endpoint (.string "eth_getCode") (.array [address, blockParam block])
          defaultTimeout world session).2) := by
  rw [codeAt]
  -- Whatever the answer is, nothing more is sent.
  cases sent : call endpoint (.string "eth_getCode") (.array [address, blockParam block])
      defaultTimeout world session with
  | mk answer after =>
    cases answer with
    | error fault => exact bind_of_error sent
    | ok code =>
      rw [bind_of_ok sent]
      dsimp only [Except.bind, codeIn]
      split
      · rfl
      · cases code.text "lower" with
        | error why => rfl
        | ok text => rfl

/-- The request for the code that is at an address now. -/
def codeRequest (endpoint : Endpoint) (address : String) : Nat → HttpRequest :=
  requestOf endpoint (.string "eth_getCode") (.array [.string address, .string "latest"])
    defaultTimeout

/-- The code that an answer tells; an empty one is `0x`. -/
def codeTold (reply : HttpReply) : Except Fault String :=
  ((bodyOf (.string "eth_getCode") reply).bind (resultOf (.string "eth_getCode"))).bind fun code =>
    if !code.isTruthy then .ok "0x" else ((code.text "lower").mapError .shape).map Text.lower

theorem currentCode_run (endpoint : Endpoint) (address : String) (world : World)
    (session : Session) :
    currentCode endpoint (.string address) world session
      = (codeTold (world.network session.requests
          (codeRequest endpoint address (session.rpcCalls + 1))),
        { session with
          rpcCalls := session.rpcCalls + 1
          requests := session.requests ++ [codeRequest endpoint address (session.rpcCalls + 1)] }) := by
  rw [currentCode, codeAt_run, show blockParam (.string "latest") = .string "latest" from rfl, call_run]
  rfl

end SourceAttest.Rpc
