import SourceAttest.Address
import SourceAttest.Chain.Basic
import SourceAttest.Comparison
import SourceAttest.Network.Rpc

/-!
# Matching candidate addresses

Candidates are tried in their order and the first that matches wins. Trouble with one candidate,
be it with its node, its creation data or its code, does not concern the next one.
-/
namespace SourceAttest

/-- The outcome of matching: the address that matched, the status, and for a single candidate that
did not match a message. -/
structure MatchResult where
  address : Option String
  status : MatchStatus
  constructorArgs : Option String
  message : Option String
deriving Repr, DecidableEq

/-- What finds the creation data of the contract at an address. -/
abbrev Resolver := Logger → Chain → String → Action (Option String)

namespace Matching

def place : String × Json := ("loc", .string "[MATCH]")

def subject (chain : Chain) (address : String) : List (String × Json) :=
  [place, ("chain", chain.id), ("address", .string address)]

def shownName (chain : Chain) : String :=
  if chain.name.isTruthy then chain.name.plain else "The chain"

def diagnose (chain : Chain) (address : String) : Option String → String
  | none => shownName chain ++ " is temporarily unavailable."
  | some "0x" => shownName chain ++ " does not have a contract deployed at " ++ address ++ "."
  | some _ => "The deployed and recompiled bytecode don't match."

def comparisonFailed : String :=
  "There were problems during contract verification. Please try again in a minute."

/-- The code at an address, or nothing if the node does not tell. -/
def deployedCode (logger : Logger) (chain : Chain) (address : String) : Action (Option String) := do
  let asked : Action String := do
    Rpc.currentCode (← Action.ofShape chain.node) (.string address)
  match ← asked.attempt with
  | .ok code => pure (some code)
  | .error fault =>
    -- A node that does not answer is no reason to give up the other candidates.
    if fault.kind = .rpc then
      logger.warning "Bytecode unavailable" (subject chain address ++ [("err", .string fault.message)])
      pure none
    else Action.fail fault

/-- What is compared with every candidate: the codes as the compiler returned them. -/
structure Compiled where
  runtime : Json
  creation : Json
deriving Repr

/-- The outcome for one candidate: a match, or the message that a single candidate would get. -/
def tryCandidate (logger : Logger) (resolver : Resolver) (chain : Chain) (compiled : Compiled)
    (address : String) : Action (Except String MatchResult) := do
  logger.info "Retrieving contract bytecode address" (subject chain address)
  let deployed ← deployedCode logger chain address
  match ← (compareValues (deployed.elim .null .string) .null compiled.runtime compiled.creation
      (resolver logger chain address)).attempt with
  -- No fault of a comparison ends the search.
  | .error fault =>
    logger.error "Bytecode comparison failed" (subject chain address ++ [("err", .string fault.message)])
    return .error comparisonFailed
  | .ok verdict =>
    if verdict.status = .none then return .error (diagnose chain address deployed)
    else return .ok ⟨some address, verdict.status, verdict.constructorArgs, none⟩

/-- Try candidates in turn. `message` is what to say if none matches. -/
def tryEach (logger : Logger) (resolver : Resolver) (chain : Chain) (compiled : Compiled)
    (single : Bool) (message : Option String) : List Json → Action MatchResult
  | [] => pure ⟨none, .none, none, message⟩
  | candidate :: rest => do
    let address ← Action.ofExcept (Address.checksumValue candidate)
    match ← tryCandidate logger resolver chain compiled address with
    | .ok result => pure result
    | .error reason =>
      tryEach logger resolver chain compiled single (if single then some reason else message) rest

/-- The first candidate that matches. -/
def firstMatch (logger : Logger) (resolver : Resolver) (chain : Chain) (compiled : Compiled)
    (candidates : List Json) : Action MatchResult :=
  tryEach logger resolver chain compiled (candidates.length = 1) none candidates

/-- The first candidate that matches, of candidates that are given as a value. -/
def firstMatchAmong (logger : Logger) (resolver : Resolver) (chain : Chain) (compiled : Compiled)
    (candidates : Json) : Action MatchResult := do
  firstMatch logger resolver chain compiled (← Action.ofShape candidates.items)

end Matching

end SourceAttest
