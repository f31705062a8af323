import SourceAttest.EventLog.Settings
import SourceAttest.EventLog.Template
import SourceAttest.Json.Writer

/-!
# Lines of the event log

An event becomes one JSON object with sorted members, or a line for a person: time, level, event,
loggers, and then the values by name, followed by a stack and an exception on lines of their own.
-/
namespace SourceAttest

namespace EventLog

def timeMark : String := "<ts>"

/-- Whether a value of an event only controls how it is reported. -/
def isControl (name : String) : Bool :=
  name = "exc_info" || name = "stack_info" || name = "_record" || name = "_from_structlog"

/-- All members of an event with the given values. Level and time are those of the event; a service
among the values stays. -/
def members (settings : LogSettings) (level : Level) (given : Table String Json) :
    Table String Json :=
  let dated := Table.put "timestamp" (.string timeMark)
    (Table.put "level" (.string level.text)
      ((Table.ofEntries given).filter fun entry => !isControl entry.1))
  if Table.has "service" dated then dated else Table.put "service" settings.service dated

def jsonLine (members : Table String Json) : String := (Json.object members).sorted.write

def padRight (width : Nat) (text : String) : String :=
  text ++ String.ofList (List.replicate (width - text.length) ' ')

/-- Whether a text must be quoted to be told apart from what surrounds it. -/
def needsQuotes (text : String) : Bool :=
  text.toList.any fun c =>
    c = ' ' || c = '\t' || c = '=' || c = '\r' || c = '\n' || c = '"' || c = '\x27'

def shownValue : Json → String
  | .string text => if needsQuotes text then Text.quoted text else text
  | .unpaired text => if needsQuotes text.shown then Text.quotedUnpaired text else text.shown
  | other => other.shown

def namedValue (name : String) (value : Json) : String := name ++ "=" ++ shownValue value

def bracketed (width : Nat) (value : Json) : String := "[" ++ padRight width value.plain ++ "]"

/-- Members that have places of their own in a line for a person, in their order, and how they are
laid out there. -/
def columns : List (String × (Json → String)) := [
  ("", namedValue ""),
  ("timestamp", Json.plain),
  ("level", bracketed 9),
  ("event", fun value => padRight 30 value.plain),
  ("logger", bracketed 0),
  ("logger_name", bracketed 0)]

/-- Members that follow a line for a person on lines of their own. -/
def isTrailing (name : String) : Bool := name = "stack" || name = "exception"

/-- The lines that follow a line for a person: the stack, the exception, and between them a rule. -/
def trailingLines (members : Table String Json) : String :=
  let stated (name : String) : Option String :=
    match members.get? name with
    | none => none
    | some .null => none
    | some value => some value.plain
  match stated "stack", stated "exception" with
  | none, none => ""
  | some stack, none => "\n" ++ stack
  | none, some exception => "\n" ++ exception
  | some stack, some exception =>
    "\n" ++ stack ++ "\n\n" ++ String.ofList (List.replicate 79 '=') ++ "\n\n" ++ exception

def consoleLine (members : Table String Json) : String :=
  let placed := columns.filterMap fun (name, layOut) => (members.get? name).map layOut
  let others := (members.filter fun entry =>
      !isTrailing entry.1 && !columns.any fun column => column.1 = entry.1).mergeSort
    fun a b => !(b.1 < a.1 : Bool)
  " ".intercalate (placed ++ others.map fun (name, value) => namedValue name value) ++
    trailingLines members

def line (settings : LogSettings) (level : Level) (given : Table String Json) : String :=
  if settings.forConsole then consoleLine (members settings level given)
  else jsonLine (members settings level given)

/-- The line of an event with the given values, unless it is below the threshold. -/
def line? (settings : LogSettings) (level : Level) (given : Table String Json) : Option String :=
  if settings.threshold ≤ level.number then some (line settings level given) else none

/-- The line of an event of the library, unless it is below the threshold. -/
def eventLine? (settings : LogSettings) (event : Event) : Option String :=
  line? settings event.level
    (event.logger.name.toList.map (fun name => ("logger", Json.string name)) ++
      ("event", .string event.text) :: event.fields)

/-- The name of a logger; the one without a name is the root. -/
def loggerName (logger : String) : String := if logger = "" then "root" else logger

/-- The line of a message from outside the library, unless its logger drops it or its template does
not fit its arguments. -/
def foreignLine? (settings : LogSettings) (logger : String) (level : Level) (template : String)
    (args : List Json) : Option String :=
  if settings.thresholdFor logger ≤ level.number then
    (Template.fill? template args).map fun message =>
      line settings level [("event", .string message), ("logger", .string (loggerName logger))]
  else none

end EventLog

end SourceAttest
