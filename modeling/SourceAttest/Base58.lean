/-!
# Base 58

A byte string read as one big-endian number and written with 58 letters and digits. Every leading
zero byte becomes one leading `1`, so the length is not lost.
-/
namespace SourceAttest.Base58

/-- The digits in order of value: no zero, no capital `O` or `I`, no small `l`. -/
def alphabet : List Char :=
  "123456789ABCDEFGHJKLMNPQRSTUVWXYZabcdefghijkmnopqrstuvwxyz".toList

def digit (n : Nat) : Char := alphabet.getD n '1'

/-- A byte string as one big-endian number. -/
def toNumber (bytes : List UInt8) : Nat :=
  bytes.foldl (fun value byte => value * 256 + byte.toNat) 0

/-- The digits of a number, low digit first; none for zero. -/
def reversedDigits (n : Nat) : List Char :=
  if n = 0 then [] else digit (n % 58) :: reversedDigits (n / 58)
termination_by n

def encode (bytes : List UInt8) : String :=
  let zeros := (bytes.takeWhile (· == 0)).length
  String.ofList (List.replicate zeros '1' ++ (reversedDigits (toNumber bytes)).reverse)

end SourceAttest.Base58
