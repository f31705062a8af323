import SourceAttest.Text.Blank
import SourceAttest.Text.DecimalDigit

/-!
# Base 16

Bytes as pairs of hexadecimal digits, and integers written in base 16. Writing always uses
lower-case digits; reading accepts either case.
-/
namespace SourceAttest.Base16

def digit (n : Nat) : Char :=
  if n < 10 then Char.ofNat (n + 48) else Char.ofNat (n + 87)

def digitValue? (c : Char) : Option Nat :=
  let n := c.toNat
  if 48 ≤ n && n ≤ 57 then some (n - 48)
  else if 97 ≤ n && n ≤ 102 then some (n - 87)
  else if 65 ≤ n && n ≤ 70 then some (n - 55)
  else none

theorem digitValue?_digit : ∀ n < 16, digitValue? (digit n) = some n := by decide

/-- The two digits of a byte, high half first. -/
def encodeByte (byte : UInt8) : List Char :=
  [digit (byte.toNat / 16), digit (byte.toNat % 16)]

def encode (bytes : List UInt8) : List Char := bytes.flatMap encodeByte

/-- Read pairs of digits as bytes. Blanks may stand before and after a pair, not inside one. -/
def decode? : List Char → Option (List UInt8)
  | [] => some []
  | [c] => if Text.isNarrowBlank c then some [] else none
  | c :: d :: rest =>
    if Text.isNarrowBlank c then decode? (d :: rest)
    else
      match digitValue? c, digitValue? d, decode? rest with
      | some high, some low, some bytes => some (UInt8.ofNat (high * 16 + low) :: bytes)
      | _, _, _ => none

/-- A number as exactly `width` digits, high digits first; higher digits are dropped. -/
def fixed : Nat → Nat → List Char
  | 0, _ => []
  | width + 1, n => fixed width (n / 16) ++ [digit (n % 16)]

/-- The digits of a natural number without leading zeros. -/
def digits (n : Nat) : List Char := Nat.toDigits 16 n

/-- An integer with its sign and the marker `0x`. -/
def ofInt (n : Int) : String :=
  (if n < 0 then "-0x" else "0x") ++ String.ofList (digits n.natAbs)

/-! ### Reading integers -/

/-- The ASCII character that a character stands for inside a number: wide blanks count as spaces
and digits of every script as ASCII digits. -/
def plainForm (c : Char) : Char :=
  if c.toNat < 127 then c
  else if Text.isWideBlank c then ' '
  else
    match Text.decimalValue? c with
    | some value => digit value
    | none => '?'

/-- Continue a number after one of its digits. A single underscore may separate two digits. -/
def moreDigits? (value : Nat) : List Char → Option Nat
  | [] => some value
  | '_' :: c :: rest => (digitValue? c).bind fun d => moreDigits? (value * 16 + d) rest
  | c :: rest => (digitValue? c).bind fun d => moreDigits? (value * 16 + d) rest

/-- Read one or more digits. -/
def digits? : List Char → Option Nat
  | [] => none
  | c :: rest => (digitValue? c).bind fun d => moreDigits? d rest

/-- Read digits with an optional marker, after which one underscore may stand. -/
def markedDigits? : List Char → Option Nat
  | '0' :: 'x' :: '_' :: rest => digits? rest
  | '0' :: 'X' :: '_' :: rest => digits? rest
  | '0' :: 'x' :: rest => digits? rest
  | '0' :: 'X' :: rest => digits? rest
  | cs => digits? cs

/-- Read an integer in base 16: blanks around it, one sign, an optional marker and digits. -/
def readInt? (text : String) : Option Int :=
  match Text.trimBoth Text.isNarrowBlank (text.toList.map plainForm) with
  | '-' :: rest => (markedDigits? rest).map fun n => -(n : Int)
  | '+' :: rest => (markedDigits? rest).map fun n => (n : Int)
  | cs => (markedDigits? cs).map fun n => (n : Int)

end SourceAttest.Base16
