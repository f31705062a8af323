import SourceAttest.Chain.BuiltIn
import SourceAttest.CreationData.BlockSearch
import SourceAttest.Pattern.Reader

/-!
# Ways to find creation data

The creation data of a contract are the input of the transaction that created it. There are three
ways to that transaction: the explorer's page, an index of creations, and a search of an archive
node. Each one either returns the data or says why it cannot.
-/
namespace SourceAttest

/-- The ways to find creation data, in the order in which they are tried. -/
inductive Strategy where
  | scrape
  | graphql
  | archive
deriving Repr, DecidableEq

def Strategy.text : Strategy → String
  | .scrape => "scrape"
  | .graphql => "graphql"
  | .archive => "archive"

namespace CreationData

/-- The query for the creating transaction of a contract. -/
def creationQuery : String :=
  "\nquery GetCreationTransaction($address: String!) \x7b\n" ++
  "  contract(address: $address) \x7b\n" ++
  "    creationTransaction \x7b\n" ++
  "      hash\n" ++
  "    \x7d\n" ++
  "  \x7d\n" ++
  "\x7d\n"

/-- A fault of a node becomes a fault of the strategy that asked it. -/
def asStrategyFault : Fault → Fault
  | .rpc why => .strategy (.node why)
  | other => other

/-- Run an action whose faults of nodes count as faults of the strategy. -/
def withNodeFaults {α : Type} (action : Action α) : Action α := do
  match ← action.attempt with
  | .ok value => pure value
  | .error fault => Action.fail (asStrategyFault fault)

/-- The input of a transaction object, under the newer or the older name. -/
def inputOf (transaction : Json) : Except ShapeFault Json := do
  let input ← transaction.memberOr "input" .null
  if input.isTruthy then return input else transaction.memberOr "data" .null

def transactionInput (chain : Chain) (hash : Json) : Action String := do
  let node ← Action.ofShape chain.node
  let transaction ← Rpc.transaction node hash
  let input ← Action.ofShape (inputOf transaction)
  if !input.isTruthy || input.equals (.string "0x") then Action.fail (.strategy (.noInput hash))
  else return Text.lower (← Action.ofShape (input.text "lower"))

/-- The first group of the first match of a chain's pattern; a group that took no part is null. -/
def hashOnPage (chain : Chain) (url page : String) : Except Fault Json :=
  match chain.explorerPattern with
  | .string text =>
    match Pattern.read text with
    | .error reason => .error (.strategy (.patternInvalid chain.id reason))
    | .ok compiled =>
      match compiled.pattern.search? page with
      | none => .error (.strategy (.notListed url))
      | some spot =>
        if compiled.groups = 0 then .error (.strategy (.patternWithoutGroup chain.id))
        else
          match Table.get? 1 spot.groups with
          | some taken => .ok (.string (String.ofList taken))
          | none => .ok .null
  | .array _ => .error (.shape (.notKey "list"))
  | .object _ => .error (.shape (.notKey "dict"))
  | other => .error (.shape (.notPattern other.kindName))

def scrape (chain : Chain) (address : Json) : Action String := do
  let url ← Action.ofShape (chain.explorerPage.replaced Chain.addressMark address)
  match (← Action.send ⟨.get, .string url, none, defaultTimeout⟩).accepted (.string url) with
  | .error reason => Action.fail (.strategy (.pageNotFetched url reason))
  | .ok text =>
    let hash ← Action.ofExcept (hashOnPage chain url text)
    withNodeFaults (transactionInput chain hash)

/-- The document in the answer of an index. -/
def indexAnswer (url : Json) (reply : HttpReply) : Except Fault Json :=
  match reply.accepted url with
  | .error reason => .error (.strategy (.queryFailed reason))
  | .ok text =>
    match Json.read text with
    | .ok body => .ok body
    | .error (.malformed what line column position) =>
      .error (.strategy
        (.queryFailed (Json.ReadError.malformed what line column position).message))
    | .error (.overlongInteger digits) =>
      .error (.strategy (.indexUnreadable (.overlongInteger digits)))
    -- Nesting beyond the limit of the reader is not a fault of the strategy.
    | .error (.tooDeep container) => .error (.unreadable (.tooDeep container))

def hashInAnswer (address : Json) (body : Json) : Except Fault Json :=
  match body with
  | .object members =>
    let errors := (Table.get? "errors" members).getD .null
    if errors.isTruthy then .error (.strategy (.indexReported errors))
    else
      let hash := do
        (← (← (← body.member "data").member "contract").member "creationTransaction").member "hash"
      -- Whatever is amiss on the way to the hash, the contract counts as not indexed.
      match hash with
      | .ok hash => if hash.isTruthy then .ok hash else .error (.strategy (.notIndexed address))
      | .error _ => .error (.strategy (.notIndexed address))
  | other => .error (.strategy (.indexUnexpected other))

def graphql (chain : Chain) (address : Json) : Action String := do
  let query : Json := .object [
    ("query", .string creationQuery),
    ("variables", .object [("address", address)])]
  let reply ← Action.send ⟨.post, chain.index, some query, defaultTimeout⟩
  let body ← Action.ofExcept (indexAnswer chain.index reply)
  let hash ← Action.ofExcept (hashInAnswer address body)
  withNodeFaults (transactionInput chain hash)

/-- Whether a receipt names an address as the created contract. -/
def created (address : Json) (receipt : Json) : Except ShapeFault Bool :=
  if !receipt.isTruthy then .ok false
  else do
    let contract ← receipt.memberOr "contractAddress" .null
    if !contract.isTruthy then return false
    else return Text.lower (← contract.text "lower") = Text.lower (← address.text "lower")

/-- The input of the transaction of a block that created the contract at an address. -/
def creationInBlock (endpoint : Endpoint) (address : Json) (block : Nat) :
    List Json → Action String
  | [] => Action.fail (Fault.namingBlock (.strategy (.notInBlock address block)) block)
  | .object members :: rest =>
    match Table.get? "to" members with
    | some .null => candidate members rest
    | none => candidate members rest
    | some _ => creationInBlock endpoint address block rest
  | _ :: _ => Action.fail (Fault.namingBlock (.strategy (.blockWithoutTransactions block)) block)
where
  candidate (members : List (String × Json)) (rest : List Json) : Action String := do
    let hash ← Action.ofShape ((Json.object members).member "hash")
    let receipt ← Rpc.receipt endpoint hash
    if ← Action.ofShape (created address receipt) then
      let input ← Action.ofShape (inputOf (.object members))
      if input.isTruthy then return Text.lower (← Action.ofShape (input.text "lower"))
      else Action.fail (.strategy (.creationWithoutInput hash))
    else creationInBlock endpoint address block rest

/-- Search an archive node for the block and the transaction that created the contract. -/
def archive (chain : Chain) (address : Json) : Action String :=
  withNodeFaults do
    let number ← findCreationBlock chain.archive address
    let block ← Rpc.block chain.archive (.int number) (.bool true)
    let transactions ← Action.ofShape do (← block.memberOr "transactions" (.array [])).items
    creationInBlock chain.archive address number transactions

def findBy : Strategy → Chain → Json → Action String
  | .scrape => scrape
  | .graphql => graphql
  | .archive => archive

end CreationData

end SourceAttest
