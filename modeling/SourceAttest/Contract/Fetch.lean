import SourceAttest.Action
import SourceAttest.Contract.Basic
import SourceAttest.Text.Search

/-!
# Fetching missing sources

Missing sources are fetched from the URLs that the metadata document lists for them. A fetched text
counts only if it has the recorded hash.
-/
namespace SourceAttest.Contract

/-- The gateways of the two content-addressed networks, as they are given. -/
structure Gateways where
  ipfs : Json
  swarm : Json
deriving Repr

/-- The value that is given, else that of the environment, else the default. -/
def chooseGateway (given : Json) (set : Option String) (default : String) : Json :=
  match given with
  | .null => .string (set.getD default)
  | given => given

/-- The gateways that are given, else those of the environment, else the public ones. -/
def Gateways.choose (ipfs swarm : Json) (environment : Table String String) : Gateways :=
  ⟨chooseGateway ipfs (environment.get? "IPFS_GATEWAY") "https://ipfs.io/ipfs/",
   chooseGateway swarm (environment.get? "SWARM_GATEWAY") "https://swarm-gateways.net/bzz-raw:/"⟩

def behindGateway : Json → String → Except ShapeFault String
  | .string gateway, document => .ok (gateway ++ document)
  | .unpaired gateway, document => .ok (gateway.shown ++ document)
  | other, _ => .error (.notText other.kindName)

def afterStart? (start text : String) : Option String :=
  if Text.startsWith start text then some (String.ofList (text.toList.drop start.length)) else none

/-- The URL to fetch for a listed one; other schemes than the known ones are not fetched. -/
def Gateways.resolve? (gateways : Gateways) (url : String) : Except ShapeFault (Option String) :=
  match afterStart? "dweb:/ipfs/" url, afterStart? "bzz-raw://" url with
  | some document, _ => (behindGateway gateways.ipfs document).map some
  | none, some document => (behindGateway gateways.swarm document).map some
  | none, none =>
    .ok (if Text.startsWith "http://" url || Text.startsWith "https://" url then some url else none)

def fetchFields (path url : String) : List (String × Json) :=
  [("loc", .string "[FETCH_MISSING]"), ("source", .string path), ("url", .string url)]

/-- Try the URLs of a source in turn until one gives the recorded content. -/
def fetchSource (gateways : Gateways) (logger : Logger) (path hash : String) :
    List Json → Action (Option String)
  | [] => pure none
  | listed :: rest => do
    let listed ← Action.ofShape (listed.text "startswith")
    match ← Action.ofShape (gateways.resolve? listed) with
    -- A scheme that is not known is passed over without a word.
    | none => fetchSource gateways logger path hash rest
    | some url =>
      match (← Action.send ⟨.get, .string url, none, defaultTimeout⟩).accepted (.string url) with
      | .error reason =>
        logger.warning "Source fetch failed" (fetchFields path url ++ [("err", .string reason)])
        fetchSource gateways logger path hash rest
      | .ok content =>
        if sourceHash content = hash then
          logger.info "Fetched missing source" (fetchFields path url)
          return some content
        else
          logger.warning "Fetched source hash mismatch" (fetchFields path url)
          fetchSource gateways logger path hash rest

def supply (contract : Contract) (path content : String) : Contract :=
  { contract with
    sources := contract.sources.put path (.string content)
    missing := contract.missing.erase path }

def fetchEach (gateways : Gateways) (logger : Logger) :
    List (String × MissingSource) → Contract → Action (Contract × Option Fault)
  | [], contract => pure (contract, none)
  | (path, source) :: rest, contract => do
    match ← (fetchSource gateways logger path source.hash source.urls).attempt with
    -- What has been fetched before stays.
    | .error fault => pure (contract, some fault)
    | .ok none => fetchEach gateways logger rest contract
    | .ok (some content) => fetchEach gateways logger rest (contract.supply path content)

/-- Paths in the order of their code points. -/
def sortedPaths (paths : List String) : List String := paths.mergeSort fun a b => !(b < a : Bool)

/-- Fetch all missing sources. The contract as far as completed comes back also with a fault. -/
def fetchMissing (gateways : Gateways) (logger : Logger) (contract : Contract) :
    Action (Contract × Option Fault) := do
  let (contract, fault) ← fetchEach gateways logger contract.missing contract
  match fault with
  | some fault => return (contract, some fault)
  | none =>
    if contract.isComplete then return (contract, none)
    else
      let paths := sortedPaths contract.missing.keys
      return (contract, some (.compilation (.sourcesNotFetched paths)))

def complete (gateways : Gateways) (logger : Logger) (contract : Contract) : Action Contract := do
  if contract.isComplete then return contract
  match ← fetchMissing gateways logger contract with
  | (contract, none) => return contract
  | (_, some fault) => Action.fail fault

end SourceAttest.Contract
