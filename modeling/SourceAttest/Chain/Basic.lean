import SourceAttest.Fault.Basic

/-!
# Chains

What is known about a chain: how to reach its nodes, and where to look for the transactions that
created its contracts. Chains come from a table of JSON values. A setting is kept as the table has
it; one of the wrong shape is a fault only where it is used.
-/
namespace SourceAttest

structure Chain where
  id : Json
  name : Json
  /-- Nodes; the first one is used. -/
  rpc : List Json
  /-- A node that knows the state at every block. -/
  archive : Json
  /-- The explorer page of a contract, with a place for the address. -/
  explorerPage : Json
  /-- The pattern whose first group is the creating transaction on that page. -/
  explorerPattern : Json
  /-- An index that knows creating transactions. -/
  index : Json
deriving Repr

namespace Chain

def node (chain : Chain) : Except ShapeFault Json :=
  match chain.rpc with
  | first :: _ => .ok first
  | [] => .error (.noItem "tuple")

/-- A chain with its settings and the given nodes. -/
def ofSettings (id settings : Json) (rpc : List Json) : Except ShapeFault Chain := do
  let name ← settings.member "name"
  return {
    id := id
    name := name
    rpc := rpc
    archive := ← settings.memberOr "archive_rpc" .null
    explorerPage := ← settings.memberOr "contract_fetch_address" .null
    explorerPattern := ← settings.memberOr "tx_regex" .null
    index := ← settings.memberOr "graphql_fetch_address" .null }

/-- The place of the provider's project id in an endpoint. -/
def providerMark : String := "\x7bprovider_id\x7d"

/-- The endpoints at the provider. Without a project id its place is left empty. -/
def providerEndpoints (providerId settings : Json) : Except ShapeFault (List Json) := do
  let templates ← (← settings.member "rpc").items
  let replacement : Json := if providerId.isTruthy then providerId else .string ""
  templates.mapM fun template => (template.replaced providerMark replacement).map .string

/-- The endpoint of a self-hosted node, if the table has one. -/
def fullNode? (settings : Json) : Except ShapeFault (Option Json) := do
  let endpoint ← settings.memberOr "fullnode" .null
  return if endpoint.isTruthy then some endpoint else none

end Chain

abbrev ChainTable := List (Json × Json)

/-- Bind the settings of a chain, in the place of an equal id if there is one. -/
def ChainTable.put (id settings : Json) : ChainTable → ChainTable
  | [] => [(id, settings)]
  | (key, value) :: rest =>
    if key.equals id then (key, settings) :: rest else (key, value) :: ChainTable.put id settings rest

def ChainTable.ofEntries (entries : List (Json × Json)) : ChainTable :=
  entries.foldl (fun table entry => table.put entry.1 entry.2) []

/-- Which nodes the chains are loaded with. -/
inductive ChainMode where
  | provider
  | fullNode
deriving Repr, DecidableEq

def ChainMode.ofJson? : Json → Option ChainMode
  | .string "provider" => some .provider
  | .string "fullnode" => some .fullNode
  | _ => none

/-- Load one chain; a chain without a self-hosted node is skipped when one is wanted. -/
def loadChain (mode : ChainMode) (providerId id settings : Json) :
    Except ShapeFault (Option Chain) :=
  match mode with
  | .provider => do
    let rpc ← Chain.providerEndpoints providerId settings
    return some (← Chain.ofSettings id settings rpc)
  | .fullNode => do
    match ← Chain.fullNode? settings with
    | none => return none
    | some endpoint => return some (← Chain.ofSettings id settings [endpoint])

/-- Load the chains of a table in its order. An unknown mode matters only if there is a chain. -/
def loadChains (mode providerId : Json) : ChainTable → Except Fault (List Chain)
  | [] => .ok []
  | (id, settings) :: rest =>
    match ChainMode.ofJson? mode with
    | none => .error (.unknownMode mode)
    | some known =>
      match loadChain known providerId id settings with
      | .error why => .error (.shape why)
      | .ok loaded => (loadChains mode providerId rest).map (loaded.toList ++ ·)

end SourceAttest
