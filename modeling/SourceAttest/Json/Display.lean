import SourceAttest.Json.Basic
import SourceAttest.Number.Shortest
import SourceAttest.Text.Quoted

/-!
# Showing JSON values in messages

Messages show a value on one line: texts inside a value are quoted, a text on its own is not. Half a
character of such a text is replaced.
-/
namespace SourceAttest.Json

mutual

def shown : Json → String
  | .null => "None"
  | .bool true => "True"
  | .bool false => "False"
  | .int n => toString n
  | .float x => x.text
  | .string s => Text.quoted s
  | .unpaired text => Text.quotedUnpaired text
  | .array items => "[" ++ ", ".intercalate (shownItems items) ++ "]"
  | .object members => "\x7b" ++ ", ".intercalate (shownMembers members) ++ "\x7d"

def shownItems : List Json → List String
  | [] => []
  | item :: rest => item.shown :: shownItems rest

def shownMembers : List (String × Json) → List String
  | [] => []
  | (name, value) :: rest => (Text.quoted name ++ ": " ++ value.shown) :: shownMembers rest

end

def plain : Json → String
  | .string s => s
  | .unpaired text => text.shown
  | other => other.shown

/-- The name of the kind of a value. -/
def kindName : Json → String
  | .null => "NoneType"
  | .bool _ => "bool"
  | .int _ => "int"
  | .float _ => "float"
  | .string _ | .unpaired _ => "str"
  | .array _ => "list"
  | .object _ => "dict"

end SourceAttest.Json
