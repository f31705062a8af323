import SourceAttest.Action
import SourceAttest.Json.Reader
import SourceAttest.Text.Lowercase

/-!
# Calls of chain nodes

Nodes are asked by JSON-RPC 2.0 over HTTP. An endpoint is kept as configured; a call of one that is
no URL finds no route.
-/
namespace SourceAttest

abbrev Endpoint := Json

namespace Rpc

def envelope (method params : Json) (number : Nat) : Json :=
  .object [("jsonrpc", .string "2.0"), ("method", method), ("params", params),
    ("id", .int number)]

/-- The result in the body of an answer. -/
def resultOf (method : Json) (body : Json) : Except Fault Json := do
  let shaped {α : Type} (value : Except ShapeFault α) : Except Fault α := value.mapError .shape
  if ← shaped (body.mentions "error") then
    .error (.rpc (.reported method (← shaped (body.member "error"))))
  else if ← shaped (body.mentions "result") then shaped (body.member "result")
  else .error (.rpc (.noResult method))

/-- The body of an answer. A text that is no JSON counts as a failure of the network. -/
def bodyOf (method : Json) : HttpReply → Except Fault Json
  | .failed reason => .error (.rpc (.network method reason))
  | .answered status _ text =>
    if status ≠ 200 then .error (.rpc (.status method status))
    else
      match Json.read text with
      | .ok body => .ok body
      | .error (.malformed what line column position) =>
        .error (.rpc (.network method (Json.ReadError.malformed what line column position).message))
      | .error (.overlongInteger digits) => .error (.rpc (.unreadable method (.overlongInteger digits)))
      | .error (.tooDeep container) => .error (.unreadable (.tooDeep container))

def call (endpoint : Endpoint) (method params timeout : Json) : Action Json := do
  let number ← Action.nextCallNumber
  let reply ← Action.send ⟨.post, endpoint, some (envelope method params number), timeout⟩
  Action.ofExcept ((bodyOf method reply).bind (resultOf method))

/-- The form in which a block is asked for: numbers in base 16, anything else as it is. -/
def blockParam : Json → Json
  | .int n => .string (Base16.ofInt n)
  | .bool b => .string (Base16.ofInt (if b then 1 else 0))
  | other => other

/-- The code at an address as of a block; `0x` if there is none. -/
def codeAt (endpoint : Endpoint) (address : Json) (block : Json) : Action String := do
  let code ← call endpoint (.string "eth_getCode") (.array [address, blockParam block]) defaultTimeout
  if !code.isTruthy then pure "0x"
  else return Text.lower (← Action.ofShape (code.text "lower"))

def currentCode (endpoint : Endpoint) (address : Json) : Action String :=
  codeAt endpoint address (.string "latest")

def blockNumber (endpoint : Endpoint) : Action Int := do
  match ← call endpoint (.string "eth_blockNumber") (.array []) defaultTimeout with
  | .string text =>
    match Base16.readInt? text with
    | some number => pure number
    | none => Action.fail (.notBase16 text)
  | .unpaired text => Action.fail (.notBase16 text.shown)
  | other => Action.fail (.shape (.notNumeral other.kindName))

/-- The fault that a node does not know a block. -/
def blockNotFound (number : Json) : Fault :=
  let fault : Fault := .rpc (.blockNotFound number)
  match number with
  | .int n => fault.namingBlock n
  | _ => fault

def block (endpoint : Endpoint) (number : Json) (full : Json) : Action Json := do
  match ← call endpoint (.string "eth_getBlockByNumber") (.array [blockParam number, full])
      defaultTimeout with
  | .null => Action.fail (blockNotFound number)
  | found => pure found

def transaction (endpoint : Endpoint) (hash : Json) : Action Json := do
  match ← call endpoint (.string "eth_getTransactionByHash") (.array [hash]) defaultTimeout with
  | .null => Action.fail (.rpc (.transactionNotFound hash))
  | found => pure found

/-- The receipt of a transaction; null while there is none. -/
def receipt (endpoint : Endpoint) (hash : Json) : Action Json :=
  call endpoint (.string "eth_getTransactionReceipt") (.array [hash]) defaultTimeout

def isReachable (endpoint : Endpoint) (timeout : Json) : Action Bool := do
  match ← (call endpoint (.string "eth_blockNumber") (.array []) timeout).attempt with
  | .ok _ => pure true
  | .error fault => if fault.kind = .rpc then pure false else Action.fail fault

end Rpc

end SourceAttest
