import SourceAttest.Base16

/-!
# Texts with unpaired surrogates

A document may name the two halves of a character beyond the first 65536 by an escape each. A half
without its partner is no character, but it stays in the text that is read. Such a text can be
compared, shown and written with escapes again; it has no UTF-8 form, so that it can neither be hashed
nor be kept in a file.
-/
namespace SourceAttest

def isHighSurrogate (n : Nat) : Bool := 0xD800 ≤ n && n ≤ 0xDBFF

def isLowSurrogate (n : Nat) : Bool := 0xDC00 ≤ n && n ≤ 0xDFFF

/-- A code point of a text: a character, or half of one by its distance from U+D800. -/
inductive CodePoint where
  | char (c : Char)
  | half (offset : Fin 0x800)
deriving Repr, DecidableEq

namespace CodePoint

def isHalf : CodePoint → Bool
  | .char _ => false
  | .half _ => true

/-- The code point that a single UTF-16 unit stands for. -/
def ofUnit (unit : Nat) : CodePoint :=
  if half : 0xD800 ≤ unit ∧ unit ≤ 0xDFFF then .half ⟨unit - 0xD800, by omega⟩
  else .char (Char.ofNat unit)

/-- The character that two halves make together. -/
def ofPair (high low : Nat) : CodePoint :=
  .char (Char.ofNat (0x10000 + (high - 0xD800) * 0x400 + (low - 0xDC00)))

/-- The UTF-16 unit of half a character. -/
def unitOf (offset : Fin 0x800) : Nat := 0xD800 + offset

/-- The character that stands for a code point where there is only room for characters. -/
def shown : CodePoint → Char
  | .char c => c
  | .half _ => '\uFFFD'

end CodePoint

/-- A text in which at least one character is only half there. -/
structure UnpairedText where
  points : List CodePoint
  unpaired : points.any CodePoint.isHalf = true
deriving Repr, DecidableEq

namespace UnpairedText

/-- The text with every half replaced. -/
def shown (text : UnpairedText) : String := String.ofList (text.points.map CodePoint.shown)

/-- Where the first halves stand, and which they are. -/
def firstHalves (text : UnpairedText) : Nat × List CodePoint :=
  ((text.points.takeWhile (!·.isHalf)).length,
    (text.points.dropWhile (!·.isHalf)).takeWhile CodePoint.isHalf)

/-- Why the text has no UTF-8 form. -/
def refusal (text : UnpairedText) : String :=
  let (place, halves) := text.firstHalves
  let named :=
    match halves with
    | [.half offset] => "character '\\u" ++ String.ofList (Base16.fixed 4 (CodePoint.unitOf offset)) ++
        "' in position " ++ toString place
    | _ => "characters in position " ++ toString place ++ "-" ++ toString (place + halves.length - 1)
  "'utf-8' codec can't encode " ++ named ++ ": surrogates not allowed"

end UnpairedText

end SourceAttest
