import SourceAttest.Event
import SourceAttest.Fault.Basic
import SourceAttest.Text.Lowercase
import SourceAttest.Text.Uppercase

/-!
# Settings of the event log

Where the log begins to report, and in which form. The HTTP transport reports through loggers of
its own, which have a level of their own.
-/
namespace SourceAttest

structure LogSettings where
  /-- The general threshold as it was given: a number or a truth value. -/
  level : Json
  /-- Events below this number are dropped. -/
  threshold : Int
  /-- The same for the loggers of the HTTP transport. -/
  transportThreshold : Int
  /-- Whether lines are laid out for a person instead of a program. -/
  forConsole : Bool
  /-- The name of the service in every event. -/
  service : Json
deriving Repr

def Level.number : Level → Int
  | .debug => 10
  | .info => 20
  | .warning => 30
  | .error => 40
  | .critical => 50

def Level.ofText? (text : String) : Option Level :=
  if text = "warn" then some .warning
  else if text = "fatal" then some .critical
  else if text = "exception" then some .error
  else [Level.debug, .info, .warning, .error, .critical].find? (·.text = text)

namespace LogSettings

/-- The number of a threshold by its name. -/
def numberOfName? (name : String) : Option Int :=
  if name = "CRITICAL" || name = "FATAL" then some 50
  else if name = "ERROR" then some 40
  else if name = "WARNING" || name = "WARN" then some 30
  else if name = "INFO" then some 20
  else if name = "DEBUG" then some 10
  else if name = "NOTSET" then some 0
  else none

/-- The number of a threshold that is given as a number or by its name. -/
def thresholdOf : Json → Except Fault Int
  | .int n => .ok n
  | .bool b => .ok (if b then 1 else 0)
  | .string name =>
    match numberOfName? name with
    | some number => .ok number
    | none => .error (.unknownLevel (.string name))
  | .unpaired name => .error (.unknownLevel (.unpaired name))
  | other => .error (.shape (.notText other.kindName))

/-- A threshold as it is shown: a name by its number. -/
def shownThreshold (given : Json) (number : Int) : Json :=
  match given with
  | .bool b => .bool b
  | _ => .int number

/-- The given level, else that of the environment in capitals, else `INFO`. -/
def chooseLevel (given : Json) (environment : Table String String) : Json :=
  if given.isTruthy then given
  else
    let named := Text.upper ((environment.get? "LOG_LEVEL").getD "")
    .string (if named = "" then "INFO" else named)

/-- The given form, else that of the environment, else `json`; a form must be a text. -/
def chooseForm (given : Json) (environment : Table String String) : Except ShapeFault String :=
  if given.isTruthy then (given.text "lower").map Text.lower
  else
    let named := (environment.get? "LOG_FORMAT").getD ""
    .ok (if named = "" then "json" else Text.lower named)

/-- Choose all settings. The form is looked at first, and the general threshold before that of the
transport. -/
def choose (service level form : Json) (environment : Table String String) :
    Except Fault LogSettings := do
  let form ← (chooseForm form environment).mapError .shape
  let level := chooseLevel level environment
  let threshold ← thresholdOf level
  let transport ← thresholdOf (.string ((environment.get? "LOG_LEVEL_URLLIB3").getD "WARNING"))
  return ⟨shownThreshold level threshold, threshold, transport, form = "console", service⟩

def isTransport (logger : String) : Bool :=
  logger = "urllib3" || "urllib3.".toList.isPrefixOf logger.toList

/-- The threshold of a logger outside the library. A transport threshold of zero leaves the
decision to the general one. -/
def thresholdFor (settings : LogSettings) (logger : String) : Int :=
  if isTransport logger && settings.transportThreshold ≠ 0 then settings.transportThreshold
  else settings.threshold

end LogSettings

end SourceAttest
