import SourceAttest.Json.Basic

/-!
# Log events

What the library reports while it works: an event text, a level, the name of the logger and named
values. Events of one verification carry its number.
-/
namespace SourceAttest

inductive Level where
  | debug
  | info
  | warning
  | error
  | critical
deriving Repr, DecidableEq

def Level.text : Level → String
  | .debug => "debug"
  | .info => "info"
  | .warning => "warning"
  | .error => "error"
  | .critical => "critical"

/-- The name under which events are reported, and the number of the verification they belong to. -/
structure Logger where
  name : Option String
  verification : Option Nat
deriving Repr, DecidableEq

structure Event where
  level : Level
  logger : Logger
  text : String
  fields : Table String Json
deriving Repr

/-- The logger of a part of the library. -/
def Logger.ofPart (part : String) : Logger := ⟨some ("contract_verification." ++ part), none⟩

end SourceAttest
