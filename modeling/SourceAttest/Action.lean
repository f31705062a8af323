import SourceAttest.Event
import SourceAttest.Network.Http
import SourceAttest.Repository.Tree

/-!
# Actions

An action works in a given world and on a running session. The world answers: the network, the
environment, the compiler. The session remembers: the calls made, the events reported, the file
tree. An action returns or fails, and what it did to the session stays in either case.
-/
namespace SourceAttest

/-- One run of the compiler: the program and the text on its standard input. -/
structure CompilerRun where
  path : String
  input : String
deriving Repr, DecidableEq

inductive CompilerOutcome where
  | notFound
  | failed (output : String)
  | finished (output : String)
deriving Repr, DecidableEq

/-- A question to a supplied resolver of creation data. -/
structure Lookup where
  chain : Json
  address : String
deriving Repr

/-- What answers from outside. -/
structure World where
  network : Network
  environment : Table String String
  compiler : CompilerRun → CompilerOutcome
  here : Place

/-- What has happened so far, oldest first, and the file tree. -/
structure Session where
  requests : List HttpRequest
  rpcCalls : Nat
  events : List Event
  lookups : List Lookup
  runs : List CompilerRun
  verifications : Nat
  tree : Tree
deriving Repr

def Session.fresh (tree : Tree) : Session := ⟨[], 0, [], [], [], 0, tree⟩

def Action (α : Type) : Type := World → Session → Except Fault α × Session

namespace Action

variable {α β : Type}

def run (action : Action α) (world : World) (session : Session) : Except Fault α × Session :=
  action world session

protected def pure (value : α) : Action α := fun _ session => (.ok value, session)

def fail (fault : Fault) : Action α := fun _ session => (.error fault, session)

/-- Go on after an action that returned. -/
protected def bind (action : Action α) (next : α → Action β) : Action β := fun world session =>
  match action world session with
  | (.ok value, session) => next value world session
  | (.error fault, session) => (.error fault, session)

instance : Monad Action where
  pure := Action.pure
  bind := Action.bind

/-- Run an action and return its outcome, so that going on never fails. -/
def attempt (action : Action α) : Action (Except Fault α) := fun world session =>
  match action world session with
  | (outcome, session) => (.ok outcome, session)

def ofExcept : Except Fault α → Action α
  | .ok value => Action.pure value
  | .error fault => fail fault

def ofShape : Except ShapeFault α → Action α
  | .ok value => Action.pure value
  | .error why => fail (.shape why)

def ask (question : World → α) : Action α := fun world session => (.ok (question world), session)

/-- Call the network and remember the call. -/
def send (request : HttpRequest) : Action HttpReply := fun world session =>
  (.ok (world.network session.requests request),
    { session with requests := session.requests ++ [request] })

def report (event : Event) : Action Unit := fun _ session =>
  (.ok (), { session with events := session.events ++ [event] })

def nextCallNumber : Action Nat := fun _ session =>
  (.ok (session.rpcCalls + 1), { session with rpcCalls := session.rpcCalls + 1 })

def nextVerification : Action Nat := fun _ session =>
  (.ok (session.verifications + 1), { session with verifications := session.verifications + 1 })

/-- Run the compiler and remember the run. -/
def compile (job : CompilerRun) : Action CompilerOutcome := fun world session =>
  (.ok (world.compiler job), { session with runs := session.runs ++ [job] })

/-- Put a question to a supplied resolver, remember it and answer as the resolver does. -/
def lookUp (question : Lookup) (answer : Except Fault α) : Action α := fun _ session =>
  (answer, { session with lookups := session.lookups ++ [question] })

def onTree (step : Tree → Except Fault α × Tree) : Action α := fun _ session =>
  match step session.tree with
  | (outcome, tree) => (outcome, { session with tree := tree })

end Action

namespace Logger

def report (logger : Logger) (level : Level) (text : String) (fields : Table String Json) :
    Action Unit :=
  Action.report ⟨level, logger, text, fields⟩

def info (logger : Logger) : String → Table String Json → Action Unit := logger.report .info

def warning (logger : Logger) : String → Table String Json → Action Unit := logger.report .warning

def error (logger : Logger) : String → Table String Json → Action Unit := logger.report .error

end Logger

end SourceAttest
