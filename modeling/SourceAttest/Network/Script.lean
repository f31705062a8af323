import SourceAttest.Network.Http

/-!
# Scripted networks

A network described by rules: the first rule that fits a call and has answers left gives the answer.
-/
namespace SourceAttest

inductive ScriptedAnswer where
  | failure (reason : String)
  | reply (status : Int) (phrase : String) (body : String) (latin1 : Bool)
deriving Repr

/-- A rule: conditions on the call, how often it may answer, and its answer. -/
structure ScriptRule where
  url : Json
  method : Option HttpMethod
  rpcMethod : Option Json
  params : Option Json
  fromBlock : Option Int
  times : Option Nat
  answer : ScriptedAnswer
deriving Repr

namespace ScriptRule

/-- The block that a call asks about, as the second of its parameters. -/
def askedBlock? (params : Json) : Option Int :=
  match params with
  | .array (_ :: .string block :: _) => Base16.readInt? block
  | _ => none

def fits (rule : ScriptRule) (request : HttpRequest) : Bool :=
  let member (name : String) : Json :=
    match request.body with
    | some (.object members) => (Table.get? name members).getD .null
    | _ => .null
  rule.url.equals request.url &&
    rule.method.all (· = request.method) &&
    rule.rpcMethod.all (fun name => (member "method").equals name) &&
    rule.params.all (fun params => (member "params").equals params) &&
    rule.fromBlock.all fun least => (askedBlock? (member "params")).any (least ≤ ·)

/-- Read every byte of a text's UTF-8 form as one character. -/
def bytesAsCharacters (text : String) : String :=
  String.ofList (text.toUTF8.toList.map fun byte => Char.ofNat byte.toNat)

def give (rule : ScriptRule) : HttpReply :=
  match rule.answer with
  | .failure reason => .failed reason
  | .reply status phrase body latin1 =>
    .answered status phrase (if latin1 then bytesAsCharacters body else body)

end ScriptRule

/-- The position of the rule that answers a call, when each rule has answered as often as counted. -/
def answeringRule? (rules : List ScriptRule) (used : List Nat) (request : HttpRequest) : Option Nat :=
  (rules.zip used).findIdx? fun (rule, count) =>
    rule.fits request && rule.times.all fun times => count < times

/-- Count one more answer of the rule that answers a call. -/
def countAnswer (rules : List ScriptRule) (used : List Nat) (request : HttpRequest) : List Nat :=
  match answeringRule? rules used request with
  | some position => used.modify position (· + 1)
  | none => used

/-- The network that answers by rules. Without a fitting rule there is no route. -/
def scriptedNetwork (rules : List ScriptRule) : Network := fun before request =>
  let used := before.foldl (countAnswer rules) (rules.map fun _ => 0)
  match (answeringRule? rules used request).bind (rules[·]?) with
  | some rule => rule.give
  | none => .failed ("no route to " ++ request.url.plain)

end SourceAttest
