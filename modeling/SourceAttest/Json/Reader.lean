import SourceAttest.Base16
import SourceAttest.Json.Basic

/-!
# Reading JSON text

The grammar is strict JSON with three additions: `NaN`, `Infinity` and `-Infinity` are numbers.
A repeated key of an object keeps its first place and its last value. Every failure names the
place where the text stops being readable, as the part of the text that starts there.
-/
namespace SourceAttest.Json

/-- What makes a text unreadable. -/
inductive Problem where
  | valueExpected
  | nameExpected
  | colonExpected
  | commaExpected
  | extraText
  | stringNotClosed
  | controlCharacter
  | badEscape
  | badCodeEscape
  | byteOrderMark
deriving Repr, DecidableEq

def Problem.text : Problem → String
  | .valueExpected => "Expecting value"
  | .nameExpected => "Expecting property name enclosed in double quotes"
  | .colonExpected => "Expecting ':' delimiter"
  | .commaExpected => "Expecting ',' delimiter"
  | .extraText => "Extra data"
  | .stringNotClosed => "Unterminated string starting at"
  | .controlCharacter => "Invalid control character at"
  | .badEscape => "Invalid \\escape"
  | .badCodeEscape => "Invalid \\uXXXX escape"
  | .byteOrderMark => "Unexpected UTF-8 BOM (decode using utf-8-sig)"

inductive Container where
  | array
  | object
deriving Repr, DecidableEq

def Container.text : Container → String
  | .array => "array"
  | .object => "object"

/-- A failed reading: a problem at the start of a remaining text, an integer with more digits than
are read, or a container inside more containers than are read. -/
inductive Failure where
  | problem (what : Problem) (remaining : List Char)
  | overlongInteger (digits : Nat)
  | tooDeep (container : Container)
deriving Repr, DecidableEq

/-- A reading takes characters from the front and leaves the others. -/
abbrev Reading (α : Type) := Except Failure (α × List Char)

/-- An integer may have this many digits. -/
def maxIntegerDigits : Nat := 4300

/-- This many containers may be nested: a reader has 1000 frames on its stack, of which its callers have
taken some. -/
def maxDepth : Nat := 992

def isGap (c : Char) : Bool := c = ' ' || c = '\t' || c = '\n' || c = '\r'

def skipGap (cs : List Char) : List Char := cs.dropWhile isGap

/-! ### Strings -/

def fourDigits? (a b c d : Char) : Option Nat :=
  match Base16.digitValue? a, Base16.digitValue? b, Base16.digitValue? c, Base16.digitValue? d with
  | some a, some b, some c, some d => some (((a * 16 + b) * 16 + c) * 16 + d)
  | _, _, _, _ => none

def shortEscape? (c : Char) : Option Char :=
  if c = '"' || c = '\\' || c = '/' then some c
  else if c = 'b' then some '\x08'
  else if c = 'f' then some '\x0c'
  else if c = 'n' then some '\n'
  else if c = 'r' then some '\r'
  else if c = 't' then some '\t'
  else none

/-- Put a code point in front of what has been read. -/
def Reading.cons (point : CodePoint) : Reading (List CodePoint) → Reading (List CodePoint)
  | .ok (points, rest) => .ok (point :: points, rest)
  | .error failure => .error failure

/-- Read the code points of a string up to its closing quote. `opening` is the text from the
opening quote on. A code escape needs a character after its four digits. -/
def readString (opening : List Char) : List Char → Reading (List CodePoint)
  | [] => .error (.problem .stringNotClosed opening)
  | '"' :: rest => .ok ([], rest)
  | '\\' :: 'u' :: a :: b :: c :: d :: '\\' :: 'u' :: e :: f :: g :: h :: rest =>
    match fourDigits? a b c d with
    | none => .error (.problem .badCodeEscape
        ('u' :: a :: b :: c :: d :: '\\' :: 'u' :: e :: f :: g :: h :: rest))
    | some high =>
      -- A pair is read as one only if something follows it, if only the closing quote.
      if isHighSurrogate high && !rest.isEmpty then
        match fourDigits? e f g h with
        | none => .error (.problem .badCodeEscape ('u' :: e :: f :: g :: h :: rest))
        | some low =>
          if isLowSurrogate low then (readString opening rest).cons (.ofPair high low)
          else (readString opening ('\\' :: 'u' :: e :: f :: g :: h :: rest)).cons (.ofUnit high)
      else (readString opening ('\\' :: 'u' :: e :: f :: g :: h :: rest)).cons (.ofUnit high)
  | '\\' :: 'u' :: a :: b :: c :: d :: next :: rest =>
    match fourDigits? a b c d with
    | none => .error (.problem .badCodeEscape ('u' :: a :: b :: c :: d :: next :: rest))
    | some unit => (readString opening (next :: rest)).cons (.ofUnit unit)
  | '\\' :: 'u' :: rest => .error (.problem .badCodeEscape ('u' :: rest))
  | '\\' :: c :: rest =>
    match shortEscape? c with
    | none => .error (.problem .badEscape ('\\' :: c :: rest))
    | some escaped => (readString opening rest).cons (.char escaped)
  | ['\\'] => .error (.problem .stringNotClosed opening)
  | c :: rest =>
    if c.toNat < 0x20 then .error (.problem .controlCharacter (c :: rest))
    else (readString opening rest).cons (.char c)

/-! ### Numbers -/

def decimal (cs : List Char) : Nat := cs.foldl (fun n c => n * 10 + (c.toNat - 48)) 0

/-- The digits before the point: a single zero, or digits that start with another one. -/
def wholeDigits : List Char → List Char × List Char
  | '0' :: rest => (['0'], rest)
  | cs => (cs.takeWhile Char.isDigit, cs.dropWhile Char.isDigit)

/-- The digits after a point. A point without a digit after it is left alone. -/
def fractionDigits : List Char → List Char × List Char
  | '.' :: rest =>
    if (rest.takeWhile Char.isDigit).isEmpty then ([], '.' :: rest)
    else (rest.takeWhile Char.isDigit, rest.dropWhile Char.isDigit)
  | cs => ([], cs)

/-- The exponent, if there is one with at least one digit. -/
def exponentPart? : List Char → Option (Int × List Char)
  | e :: rest =>
    if e = 'e' || e = 'E' then
      let negative := rest.head? = some '-'
      let body := if rest.head? = some '-' || rest.head? = some '+' then rest.tail else rest
      let digits := body.takeWhile Char.isDigit
      if digits.isEmpty then none
      else
        let size : Int := decimal digits
        some (if negative then -size else size, body.dropWhile Char.isDigit)
    else none
  | [] => none

/-- Read a number. Without a fraction and an exponent it is an integer. -/
def readNumber (cs : List Char) : Reading Json :=
  let negative := cs.head? = some '-'
  let (whole, afterWhole) := wholeDigits (if negative then cs.tail else cs)
  if whole.isEmpty then .error (.problem .valueExpected cs)
  else
    let (fraction, afterFraction) := fractionDigits afterWhole
    match exponentPart? afterFraction with
    | some (exponent, rest) =>
      .ok (.float (.ofDecimal negative (decimal (whole ++ fraction)) (exponent - fraction.length)), rest)
    | none =>
      if fraction.isEmpty then
        -- Only integers are limited in length.
        if maxIntegerDigits < whole.length then .error (.overlongInteger whole.length)
        else .ok (.int (if negative then -(decimal whole : Int) else decimal whole), afterFraction)
      else
        .ok (.float (.ofDecimal negative (decimal (whole ++ fraction)) (-fraction.length)), afterFraction)

/-! ### Values -/

mutual

/-- Read the value at the front; `room` more containers may be nested in each other. -/
def readValue : Nat → Nat → List Char → Reading Json
  | 0, _, cs => .error (.problem .valueExpected cs)
  | fuel + 1, room, cs =>
    match cs with
    | '"' :: rest => (readString cs rest).map fun (points, rest) => (.ofPoints points, rest)
    | '[' :: rest =>
      if room = 0 then .error (.tooDeep .array)
      else
        match skipGap rest with
        | ']' :: rest => .ok (.array [], rest)
        | rest => (readItems fuel (room - 1) rest).map fun (items, rest) => (.array items, rest)
    | '{' :: rest =>
      if room = 0 then .error (.tooDeep .object)
      else
        match skipGap rest with
        | '}' :: rest => .ok (.object [], rest)
        | rest =>
          (readMembers fuel (room - 1) [] rest).map fun (members, rest) => (.object members, rest)
    | 'n' :: 'u' :: 'l' :: 'l' :: rest => .ok (.null, rest)
    | 't' :: 'r' :: 'u' :: 'e' :: rest => .ok (.bool true, rest)
    | 'f' :: 'a' :: 'l' :: 's' :: 'e' :: rest => .ok (.bool false, rest)
    | 'N' :: 'a' :: 'N' :: rest => .ok (.float .nan, rest)
    | 'I' :: 'n' :: 'f' :: 'i' :: 'n' :: 'i' :: 't' :: 'y' :: rest => .ok (.float (.infinity false), rest)
    | '-' :: 'I' :: 'n' :: 'f' :: 'i' :: 'n' :: 'i' :: 't' :: 'y' :: rest =>
      .ok (.float (.infinity true), rest)
    | cs => readNumber cs

/-- Read the items of an array from the first one to the closing bracket. -/
def readItems : Nat → Nat → List Char → Reading (List Json)
  | 0, _, cs => .error (.problem .valueExpected cs)
  | fuel + 1, room, cs =>
    match readValue fuel room cs with
    | .error failure => .error failure
    | .ok (item, rest) =>
      match skipGap rest with
      | ']' :: rest => .ok ([item], rest)
      | ',' :: rest =>
        (readItems fuel room (skipGap rest)).map fun (items, rest) => (item :: items, rest)
      | rest => .error (.problem .commaExpected rest)

/-- Read the members of an object from the first one to the closing brace, binding them in turn
to the members read before. -/
def readMembers : Nat → Nat → Table String Json → List Char → Reading (Table String Json)
  | 0, _, _, cs => .error (.problem .nameExpected cs)
  | fuel + 1, room, before, cs =>
    match cs with
    | '"' :: rest =>
      match readString cs rest with
      | .error failure => .error failure
      | .ok (name, rest) =>
        match skipGap rest with
        | ':' :: rest =>
          match readValue fuel room (skipGap rest) with
          | .error failure => .error failure
          | .ok (value, rest) =>
            -- A name that comes again keeps its first place and takes the last value.
            let members := before.put (String.ofList (name.map CodePoint.shown)) value
            match skipGap rest with
            | '}' :: rest => .ok (members, rest)
            | ',' :: rest => readMembers fuel room members (skipGap rest)
            | rest => .error (.problem .commaExpected rest)
        | rest => .error (.problem .colonExpected rest)
    | cs => .error (.problem .nameExpected cs)

end

/-- Every nested reading consumes a character after at most one step, so this is never used up. -/
def enoughFuel (cs : List Char) : Nat := 2 * cs.length + 2

/-- Read a whole text as one value. -/
def readAll (cs : List Char) : Except Failure Json :=
  if cs.head? = some '\uFEFF' then .error (.problem .byteOrderMark cs)
  else
    match readValue (enoughFuel cs) maxDepth (skipGap cs) with
    | .error failure => .error failure
    | .ok (value, rest) =>
      match skipGap rest with
      | [] => .ok value
      | rest => .error (.problem .extraText rest)

/-! ### Places in the text -/

/-- Why a text is not read, with the place for a person to look at. -/
inductive ReadError where
  | malformed (what : Problem) (line column position : Nat)
  | overlongInteger (digits : Nat)
  | tooDeep (container : Container)
deriving Repr, DecidableEq

/-- Whether the text is no JSON at all, rather than beyond a limit of the reader. -/
def ReadError.isMalformed : ReadError → Bool
  | .malformed .. => true
  | _ => false

/-- The place of a failure: lines and columns are counted from one, positions from zero. -/
def Failure.locate (text : List Char) : Failure → ReadError
  | .overlongInteger digits => .overlongInteger digits
  | .tooDeep container => .tooDeep container
  | .problem what remaining =>
    let before := text.take (text.length - remaining.length)
    .malformed what (before.count '\n' + 1)
      ((before.reverse.takeWhile (· ≠ '\n')).length + 1) before.length

def ReadError.message : ReadError → String
  | .malformed what line column position =>
    what.text ++ ": line " ++ toString line ++ " column " ++ toString column ++ " (char " ++
      toString position ++ ")"
  | .overlongInteger digits =>
    "Exceeds the limit (" ++ toString maxIntegerDigits ++
      " digits) for integer string conversion: value has " ++ toString digits ++
      " digits; use sys.set_int_max_str_digits() to increase the limit"
  | .tooDeep container =>
    "maximum recursion depth exceeded while decoding a JSON " ++ container.text ++
      " from a unicode string"

def read (text : String) : Except ReadError Json :=
  match readAll text.toList with
  | .ok value => .ok value
  | .error failure => .error (failure.locate text.toList)

end SourceAttest.Json
