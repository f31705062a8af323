import SourceAttest.Chain.Registry
import SourceAttest.Compiler.Recompile
import SourceAttest.Contract.Fetch
import SourceAttest.Matching

/-!
# Verification

A request names a chain, candidate addresses and a contract. Verifying it completes and recompiles
the sources, matches the code with the candidates and stores the contract of the match. Every
outcome is reported.

The clock and random numbers are left out: an event carries no time, and verifications are numbered.
Calls may be nested as deeply as they need to be; only the readers of documents have a limit. Half a
character stays in a document and in its sources, and storing such a text fails. In a request, in the
names of members and in what is taken for a code, a hash or creation data it is replaced
(`Json.text?`). What the file system leaves out is told where trees are defined, and what a decoder of
auxiliary data may do beyond the one here, where that is.
-/
namespace SourceAttest

/-- A request to verify a contract. All but the contract is as submitted, in texts that have an encoding;
known code of the single address takes the place of asking the chain. -/
structure VerificationRequest where
  chain : Json
  addresses : Json
  contract : Contract
  bytecode : Json
  creationData : Json
deriving Repr

abbrev Recompiler := Logger → Json → Json → Action CompiledArtifact

/-- What comes back is the contract with the sources that have been found. -/
abbrev Fetcher := Logger → Contract → Action Contract

/-- Fetch missing sources from the network, behind the gateways of the environment. -/
def Fetcher.own : Fetcher := fun logger contract => do
  let gateways := Contract.Gateways.choose .null .null (← Action.ask World.environment)
  contract.complete gateways logger

/-- A verifier: the supported chains, the repository, and what recompiles, fetches and resolves. -/
structure Verifier where
  chains : ChainRegistry
  store : Store
  recompile : Recompiler
  fetch : Fetcher
  resolver : Resolver
  logger : Logger

namespace Verification

/-- The chain and the candidates of a request that is well formed. -/
structure Accepted where
  chain : String
  addresses : Json
  candidates : List Json
deriving Repr

def badAddress? (candidates : List Json) : Option Json :=
  candidates.find? fun candidate =>
    match candidate with
    | .string text => !Address.isAddress text
    | _ => true

def isNull : Json → Bool
  | .null => true
  | _ => false

def accept (request : VerificationRequest) : Except Fault Accepted :=
  if !request.addresses.isTruthy then .error (.request .addressMissing)
  else
    match request.addresses.items with
    | .error why => .error (.shape why)
    | .ok candidates =>
      -- A missing address comes before a wrong one, wherever the two stand.
      if candidates.any isNull then .error (.request .addressMissing)
      else
        match badAddress? candidates with
        | some address => .error (.request (.addressInvalid address))
        | none =>
          match request.chain with
          | .string chain =>
            if chain = "" then .error (.request .chainMissing)
            else .ok ⟨chain, request.addresses, candidates⟩
          | _ => .error (.request .chainMissing)

def place : String × Json := ("loc", .string "[VERIFY]")

def subject (accepted : Accepted) : List (String × Json) :=
  [place, ("chain", .string accepted.chain), ("addresses", accepted.addresses)]

/-- Report a fault and fail with it as a fault of the contract. -/
def refuse {α : Type} (logger : Logger) (text : String) (fields : List (String × Json))
    (contract : Contract) (fault : Fault) : Action α := do
  logger.error text (fields ++ [("err", .string fault.message)])
  Action.fail (.ofContract contract.name fault)

/-- The code that a request brings along; an empty one is none. -/
def knownCode? (request : VerificationRequest) : Option Json :=
  if request.bytecode.isTruthy then some request.bytecode else none

/-- The chain of a request, which must be registered unless the code is known. -/
def chainOf (verifier : Verifier) (logger : Logger) (request : VerificationRequest)
    (accepted : Accepted) : Action (Option Chain) :=
  if (knownCode? request).isSome then pure none
  else
    match verifier.chains.chain (.string accepted.chain) with
    | .ok chain => pure (some chain)
    | .error fault => refuse logger "Unsupported chain" (subject accepted) request.contract fault

/-- The contract with all its sources, which are fetched if some are missing. -/
def completed (verifier : Verifier) (logger : Logger) (contract : Contract) : Action Contract :=
  if contract.isComplete then pure contract else verifier.fetch logger contract

/-- Complete and recompile the contract of a request. -/
def compiled (verifier : Verifier) (logger : Logger) (contract : Contract) :
    Action (Contract × CompiledArtifact) := do
  let contract ← completed verifier logger contract
  return (contract, ← verifier.recompile logger contract.metadata (.object contract.sources))

def compileOrRefuse (verifier : Verifier) (logger : Logger) (contract : Contract)
    (accepted : Accepted) : Action (Contract × CompiledArtifact) := do
  match ← (compiled verifier logger contract).attempt with
  | .ok result => pure result
  | .error fault =>
    -- Faults of other kinds go to the caller as they are.
    if fault.kind = .compilation then
      refuse logger "Compilation failed" (subject accepted) contract fault
    else Action.fail fault

def manyAddresses : String := "Cannot work with multiple addresses if bytecode is provided"

/-- Creation data for known code: the chain matters only here. -/
def creationDataOnChain (verifier : Verifier) (logger : Logger) (chain address : String) :
    Action (Option String) :=
  match verifier.chains.find? (.string chain) with
  | .ok (some chain) => verifier.resolver logger chain address
  | _ => Action.fail (.creationChainNotFound (.string chain))

/-- Compare known code, which belongs to a single address. -/
def compareKnown (verifier : Verifier) (logger : Logger) (request : VerificationRequest)
    (accepted : Accepted) (code : Json) (artifact : CompiledArtifact) : Action MatchResult :=
  if accepted.candidates.length ≠ 1 then do
    logger.error manyAddresses (subject accepted)
    Action.fail (.ofContract request.contract.name (.noMatch manyAddresses))
  else do
    -- The addresses may be any value with one item, which is then asked for by its place.
    let candidate ← Action.ofShape (accepted.addresses.select (.int 0))
    let address ← Action.ofExcept (Address.checksumValue candidate)
    let verdict ← compareValues code request.creationData artifact.runtime artifact.creation
      (creationDataOnChain verifier logger accepted.chain address)
    return ⟨some address, verdict.status, verdict.constructorArgs, none⟩

def matchCode (verifier : Verifier) (logger : Logger) (request : VerificationRequest)
    (accepted : Accepted) (chain : Option Chain) (artifact : CompiledArtifact) :
    Action MatchResult :=
  match knownCode? request, chain with
  | some code, _ => compareKnown verifier logger request accepted code artifact
  | none, some chain =>
    Matching.firstMatch logger verifier.resolver chain
      ⟨artifact.runtime, artifact.creation⟩ accepted.candidates
  -- Without known code the chain has been found before, so this does not happen.
  | none, none => pure ⟨none, .none, none, none⟩

def noMatchMessage : String := "Could not match the deployed and recompiled bytecode."

def saveSources (store : Store) (quality : Quality) (chain address : String) :
    List (String × Json) → Action Unit
  | [] => pure ()
  | (path, content) :: rest => do
    let target : StorageTarget := ⟨quality, chain, address, sanitizePath path, true⟩
    let _ ← Action.onTree (store.save target (.value content))
    saveSources store quality chain address rest

/-- Save the metadata document under its content hash and remove the partial record. -/
def saveDocument (store : Store) (logger : Logger) (chain address : String)
    (status : MatchStatus) (artifact : CompiledArtifact) : Action MatchStatus := do
  match ← Action.ofShape (ContentHash.ofValue? artifact.runtime) with
  | some hash =>
    let _ ← Action.onTree (store.saveAt hash.path (.value artifact.metadata))
    Action.onTree (store.deletePartial chain address)
    return status
  | none =>
    -- Without a content hash the match counts as partial.
    logger.error "No metadata hash in cbor encoded data."
      [("loc", .string "[VERIFY:GET_METADATA_PATH]"), ("chain", .string chain),
        ("address", .string address)]
    return .partly

/-- Store a verified contract. The status that comes back is that of the record. -/
def storeRecord (store : Store) (logger : Logger) (chain address : String) (contract : Contract)
    (artifact : CompiledArtifact) (verdict : Verdict) : Action MatchStatus := do
  let status ← saveDocument store logger chain address verdict.status artifact
  -- The quality is that of the status after the document has been saved.
  let quality : Quality := if status = .exact then .full else .partly
  saveSources store quality chain address contract.sources
  let target (fileName : String) : StorageTarget := ⟨quality, chain, address, fileName, false⟩
  let _ ← Action.onTree (store.save (target "metadata.json") (.value artifact.metadata))
  match verdict.constructorArgs with
  | some args =>
    if args ≠ "" then
      let _ ← Action.onTree (store.save (target "constructor-args.txt") (.value (.string args)))
  | none => pure ()
  return status

def storeOrRefuse (verifier : Verifier) (logger : Logger) (accepted : Accepted) (address : String)
    (contract : Contract) (artifact : CompiledArtifact) (verdict : Verdict) :
    Action MatchStatus := do
  match ← (storeRecord verifier.store logger accepted.chain address contract artifact verdict).attempt with
  | .ok status => pure status
  | .error fault =>
    if fault.kind = .persistence then
      refuse logger "Storing verified contract failed"
        [place, ("chain", .string accepted.chain), ("address", .string address)] contract fault
    else Action.fail fault

/-- Store a match, or fail if there is none. -/
def conclude (verifier : Verifier) (logger : Logger) (accepted : Accepted) (contract : Contract)
    (artifact : CompiledArtifact) (result : MatchResult) : Action MatchResult :=
  match result.status, result.address with
  | .none, _ => noMatch
  | _, none => noMatch
  | status, some address => do
    let status ← storeOrRefuse verifier logger accepted address contract artifact
      ⟨status, result.constructorArgs⟩
    logger.info "Verified contract" [place, ("chain", .string accepted.chain),
      ("address", .string address), ("status", .string status.text)]
    return { result with status := status }
where
  noMatch : Action MatchResult := do
    -- An empty message says nothing, like none at all.
    let message := (result.message.filter (· ≠ "")).getD noMatchMessage
    let fault : Fault := .ofContract contract.name (.noMatch message)
    logger.error fault.message (subject accepted)
    Action.fail fault

def verifyAccepted (verifier : Verifier) (request : VerificationRequest) (accepted : Accepted) :
    Action MatchResult := do
  let logger := { verifier.logger with verification := some (← Action.nextVerification) }
  let chain ← chainOf verifier logger request accepted
  let (contract, artifact) ← compileOrRefuse verifier logger request.contract accepted
  let result ← matchCode verifier logger request accepted chain artifact
  conclude verifier logger accepted contract artifact result

end Verification

/-- Verify a request and store the contract that matches. -/
def verify (verifier : Verifier) (request : VerificationRequest) : Action MatchResult :=
  match Verification.accept request with
  | .error fault => Action.fail fault
  | .ok accepted => Verification.verifyAccepted verifier request accepted

namespace Verifier

/-- Whether a setting of the environment means yes. -/
def isYes (text : String) : Bool :=
  let word := Text.lower (Text.strip text)
  word = "1" || word = "true" || word = "yes" || word = "on"

/-- What a verifier is made of; unset values come from the environment. -/
structure Settings where
  providerId : Json
  repository : Json
  offline : Json
deriving Repr

/-- The repository of the settings, or the default one. -/
def repositoryOf (settings : Settings) (environment : Table String String) (here : Place) :
    Except ShapeFault Path :=
  match settings.repository with
  | .string text => .ok (Path.ofString text)
  | .null => .ok (defaultRepository environment here)
  | other => .error (.notText other.kindName)

def providerIdOf (settings : Settings) (environment : Table String String) : Json :=
  match settings.providerId with
  | .null => (environment.get? "PROVIDER_ID").elim .null .string
  | given => given

def isOffline (settings : Settings) (environment : Table String String) : Bool :=
  match settings.offline with
  | .null => isYes ((environment.get? "OFFLINE").getD "")
  | given => given.isTruthy

/-- Load the chains and make a verifier. -/
def create (settings : Settings) (recompile : Recompiler) (resolver : Resolver) :
    Action Verifier := do
  let environment ← Action.ask World.environment
  let here ← Action.ask World.here
  let chains ← ChainRegistry.load {
    providerId := providerIdOf settings environment
    offline := isOffline settings environment
    checkEndpoints := true
    table := Chain.builtIn
    logger := .ofPart "chains" }
  let repository ← Action.ofShape (repositoryOf settings environment here)
  return ⟨chains, ⟨repository, here⟩, recompile, .own, resolver, .ofPart "verifier"⟩

end Verifier

end SourceAttest
