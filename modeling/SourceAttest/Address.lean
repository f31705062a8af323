import SourceAttest.Base16
import SourceAttest.Fault.Basic
import SourceAttest.Keccak
import SourceAttest.Text.Lowercase

/-!
# Addresses

An address is forty hexadecimal digits, with or without the marker `0x`. In its checksummed form a
letter is a capital where the corresponding digit of the address's hash is above seven.
-/
namespace SourceAttest.Address

/-- The characters behind a marker of either case. -/
def unmarked : List Char → List Char
  | '0' :: 'x' :: rest => rest
  | '0' :: 'X' :: rest => rest
  | cs => cs

def allDigits (cs : List Char) : Bool := cs.all fun c => (Base16.digitValue? c).isSome

def isAddress (text : String) : Bool :=
  (unmarked text.toList).length = 40 && allDigits (unmarked text.toList)

/-- Write a digit of an address as its hash digit says. -/
def checksumDigit (digit hashDigit : Char) : Char :=
  if (Base16.digitValue? hashDigit).any (7 < ·) then digit.toUpper else digit

/-- The checksummed form of the forty lower-case digits of an address. -/
def checksumDigits (digits : List Char) : List Char :=
  let hash := Base16.encode (Keccak.digestText (String.ofList digits))
  List.zipWith checksumDigit digits hash

def checksum (text : String) : Except Fault String :=
  let digits := unmarked text.toList
  if !allDigits digits then .error (.notHexAddress text)
  else
    let low := digits.map Char.toLower
    if low.length = 40 then .ok (String.ofList ('0' :: 'x' :: checksumDigits low))
    else .error (.wrongAddressFormat (.string text) (String.ofList ('0' :: 'x' :: low)))

/-- The checksummed form of the address that a number is. Its digits have no leading zeros. -/
def checksumInt (value : Json) (n : Int) : Except Fault String :=
  match (Base16.ofInt n).toList with
  | '0' :: 'x' :: digits =>
    if digits.length = 40 then .ok (String.ofList ('0' :: 'x' :: checksumDigits digits))
    else .error (.wrongAddressFormat value (Base16.ofInt n))
  | _ => .error (.wrongAddressFormat value (Base16.ofInt n))

/-- The checksummed form of a value that must be an address, as a text or as a number. -/
def checksumValue : Json → Except Fault String
  | .string text => checksum text
  | .unpaired text => checksum text.shown
  | .int n => checksumInt (.int n) n
  | .bool b => checksumInt (.bool b) (if b then 1 else 0)
  | other => .error (.shape (.notText other.kindName))

end SourceAttest.Address
