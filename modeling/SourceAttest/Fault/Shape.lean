import SourceAttest.Json.Display
import SourceAttest.Text.Search

/-!
# Values of the wrong shape

Documents and answers come from outside and may have any shape. A shape fault says which operation
met which kind of value.
-/
namespace SourceAttest

/-- An operation met a value that does not support it. -/
inductive ShapeFault where
  /-- A value of this kind has no such member function. -/
  | noOperation (kind operation : String)
  /-- A value of this kind has no length. -/
  | noLength (kind : String)
  /-- A value of this kind has no items to go through. -/
  | notIterable (kind : String)
  /-- A value of this kind has neither members nor places. -/
  | notSubscriptable (kind : String)
  /-- A value of this kind has places, which a value of that kind does not number. -/
  | notPlace (kind index : String)
  /-- A value of this kind cannot be searched for a text. -/
  | notSearchable (kind : String)
  /-- An object has no such member. -/
  | noMember (name : Json)
  /-- A value of this kind has no item at that place. -/
  | noItem (kind : String)
  /-- A value of this kind stands where a text is needed. -/
  | notText (kind : String)
  /-- A text that has no encoding stands where its bytes are needed. -/
  | notEncodable (text : UnpairedText)
  /-- A value of this kind stands where a numeral is needed. -/
  | notNumeral (kind : String)
  /-- A value of this kind stands where a replacement is needed. -/
  | notReplacement (kind : String)
  /-- A value of this kind stands where a pattern is needed. -/
  | notPattern (kind : String)
  /-- A value of this kind cannot be the start of a text. -/
  | notStart (kind : String)
  /-- A value of this kind cannot be a key. -/
  | notKey (kind : String)
  /-- A registry does not take assignments. -/
  | noAssignment
  /-- A field of a chain does not take assignments. -/
  | frozenField (field : String)
deriving Repr

def ShapeFault.message : ShapeFault → String
  | .noOperation kind operation => "'" ++ kind ++ "' object has no attribute '" ++ operation ++ "'"
  | .noLength kind => "object of type '" ++ kind ++ "' has no len()"
  | .notIterable kind => "'" ++ kind ++ "' object is not iterable"
  | .notSubscriptable kind => "'" ++ kind ++ "' object is not subscriptable"
  | .notPlace "str" index => "string indices must be integers, not '" ++ index ++ "'"
  | .notPlace kind index => kind ++ " indices must be integers or slices, not " ++ index
  | .notSearchable kind => "argument of type '" ++ kind ++ "' is not iterable"
  | .noMember name => name.shown
  | .noItem "str" => "string index out of range"
  | .noItem kind => kind ++ " index out of range"
  | .notText kind => "expected a string, got " ++ kind
  | .notEncodable text => text.refusal
  | .notNumeral _ => "int() can't convert non-string with explicit base"
  | .notReplacement kind => "replace() argument 2 must be str, not " ++ kind
  | .notPattern _ => "first argument must be string or compiled pattern"
  | .notStart kind => "startswith first arg must be str or a tuple of str, not " ++ kind
  | .notKey kind => "unhashable type: '" ++ kind ++ "'"
  | .noAssignment => "'ChainRegistry' object does not support item assignment"
  | .frozenField field => "cannot assign to field '" ++ field ++ "'"

namespace Json

/-- The members of an object; `operation` is what the caller wants of them. -/
def members (operation : String) : Json → Except ShapeFault (List (String × Json))
  | .object members => .ok members
  | other => .error (.noOperation other.kindName operation)

/-- The member of an object, or the default if it has none of that name. -/
def memberOr (value : Json) (name : String) (default : Json) : Except ShapeFault Json :=
  (value.members "get").map fun members => (Table.get? name members).getD default

/-- The place that a value numbers, counted from the end if it is negative. -/
def place? (size : Nat) : Json → Option Int
  | .int n => some (if n < 0 then size + n else n)
  | .bool b => some (if b then 1 else 0)
  | _ => none

/-- The item of a list at a numbered place; `kind` is the kind of the value that holds the list. -/
def itemAt (kind : String) (items : List Json) (index : Json) : Except ShapeFault Json :=
  match index.place? items.length with
  | none => .error (.notPlace kind index.kindName)
  | some place =>
    if place < 0 then .error (.noItem kind)
    else
      match items[place.toNat]? with
      | some item => .ok item
      | none => .error (.noItem kind)

/-- The member of an object by its name, or the item of a list or the character of a text by its
place. -/
def select (value index : Json) : Except ShapeFault Json :=
  match value, index with
  | .object members, .string name =>
    match Table.get? name members with
    | some value => .ok value
    | none => .error (.noMember (.string name))
  | .object _, .array _ => .error (.notKey "list")
  | .object _, .object _ => .error (.notKey "dict")
  | .object _, other => .error (.noMember other)
  | .array items, index => itemAt "list" items index
  | .string s, index => itemAt "str" (characters s) index
  | .unpaired text, index => itemAt "str" (points text) index
  | other, _ => .error (.notSubscriptable other.kindName)

def member (name : String) (value : Json) : Except ShapeFault Json := value.select (.string name)

/-- The number of items, members or characters. -/
def length : Json → Except ShapeFault Nat
  | .string s => .ok s.length
  | .unpaired text => .ok text.points.length
  | .array items => .ok items.length
  | .object members => .ok members.length
  | other => .error (.noLength other.kindName)

/-- The items of a list, the names of an object or the characters of a text. -/
def items : Json → Except ShapeFault (List Json)
  | .string s => .ok (characters s)
  | .unpaired text => .ok (points text)
  | .array items => .ok items
  | .object members => .ok (members.map fun entry => .string entry.1)
  | other => .error (.notIterable other.kindName)

/-- Whether a text occurs in a text, among the items of a list or the names of an object. -/
def mentions (name : String) : Json → Except ShapeFault Bool
  | .string s => .ok (Text.occursIn name.toList s.toList)
  | .unpaired text => .ok (Text.occursIn name.toList text.shown.toList)
  | .array items => .ok (items.any (·.equals (.string name)))
  | .object members => .ok (Table.has name members)
  | other => .error (.notSearchable other.kindName)

/-- The text of a value that must be one; `operation` is what the caller wants of it. -/
def text (operation : String) (value : Json) : Except ShapeFault String :=
  match value.text? with
  | some text => .ok text
  | none => .error (.noOperation value.kindName operation)

/-- A text with every occurrence of another one replaced. -/
def replaced (value : Json) (old : String) (new : Json) : Except ShapeFault String :=
  match value.text?, new.text? with
  | some text, some new => .ok (Text.replace old new text)
  | some _, none => .error (.notReplacement new.kindName)
  | none, _ => .error (.noOperation value.kindName "replace")

end Json

end SourceAttest
