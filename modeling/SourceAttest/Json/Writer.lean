import SourceAttest.Json.Basic
import SourceAttest.Base16
import SourceAttest.Number.Shortest

/-!
# Writing JSON text

One line of printable ASCII: a space after every comma and colon, members in their order, every
character outside printable ASCII as one or two code escapes.
-/
namespace SourceAttest.Json

/-- One UTF-16 unit as a code escape. -/
def codeEscape (unit : Nat) : List Char := '\\' :: 'u' :: Base16.fixed 4 unit

/-- One character inside quotes. -/
def writeChar (c : Char) : List Char :=
  if c = '"' then ['\\', '"']
  else if c = '\\' then ['\\', '\\']
  else if c = '\n' then ['\\', 'n']
  else if c = '\r' then ['\\', 'r']
  else if c = '\t' then ['\\', 't']
  else if c = '\x08' then ['\\', 'b']
  else if c = '\x0c' then ['\\', 'f']
  else if 0x20 ≤ c.toNat && c.toNat < 0x7F then [c]
  else if c.toNat < 0x10000 then codeEscape c.toNat
  else
    let offset := c.toNat - 0x10000
    codeEscape (0xD800 + offset / 0x400) ++ codeEscape (0xDC00 + offset % 0x400)

def writeString (text : String) : List Char :=
  '"' :: text.toList.flatMap writeChar ++ ['"']

/-- One code point inside quotes. -/
def writePoint : CodePoint → List Char
  | .char c => writeChar c
  | .half offset => codeEscape (CodePoint.unitOf offset)

def writeUnpaired (text : UnpairedText) : List Char :=
  '"' :: text.points.flatMap writePoint ++ ['"']

def writeInt (n : Int) : List Char :=
  if n < 0 then '-' :: Nat.toDigits 10 n.natAbs else Nat.toDigits 10 n.natAbs

/-- A floating point number, the special ones by name. -/
def writeFloat (x : Binary64) : List Char :=
  if x.isNaN then "NaN".toList
  else if x.isInfinite then (if x.isNegative then "-Infinity" else "Infinity").toList
  else x.text.toList

mutual

def writeValue : Json → List Char
  | .null => "null".toList
  | .bool true => "true".toList
  | .bool false => "false".toList
  | .int n => writeInt n
  | .float x => writeFloat x
  | .string s => writeString s
  | .unpaired text => writeUnpaired text
  | .array items => '[' :: writeItems items ++ [']']
  | .object members => '\x7b' :: writeMembers members ++ ['\x7d']

def writeItems : List Json → List Char
  | [] => []
  | [item] => writeValue item
  | item :: rest => writeValue item ++ ',' :: ' ' :: writeItems rest

/-- The members of an object, separated by a comma and a space. -/
def writeMembers : List (String × Json) → List Char
  | [] => []
  | [(name, value)] => writeString name ++ ':' :: ' ' :: writeValue value
  | (name, value) :: rest =>
    writeString name ++ ':' :: ' ' :: writeValue value ++ ',' :: ' ' :: writeMembers rest

end

def write (value : Json) : String := String.ofList value.writeValue

mutual

/-- The value with the members of every object in the order of their names. -/
def sorted : Json → Json
  | .array items => .array (sortedItems items)
  | .object members => .object ((sortedMembers members).mergeSort fun a b => !(b.1 < a.1 : Bool))
  | other => other

def sortedItems : List Json → List Json
  | [] => []
  | item :: rest => item.sorted :: sortedItems rest

def sortedMembers : List (String × Json) → List (String × Json)
  | [] => []
  | (name, value) :: rest => (name, value.sorted) :: sortedMembers rest

end

end SourceAttest.Json
