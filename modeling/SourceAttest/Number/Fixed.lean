import SourceAttest.Number.Shortest

/-!
# Decimals with a given number of digits

A finite number is rounded to a given place of its decimal expansion, a tie to the even digit. The
result is laid out around a point, with an exponent, or in whichever of the two forms is shorter.
All functions are about the size of a number; the caller writes its sign.
-/
namespace SourceAttest.Binary64

-- Powers of natural numbers are the built-in ones, whatever else is imported.
attribute [local instance (2000)] instPowNat

/-- The size of a finite number times `10 ^ places`, rounded to an integer. -/
def roundedAt (x : Binary64) (places : Int) : Nat :=
  let (num, den) := scaleDown x.significand 1 (-x.power)
  if 0 ≤ places then roundRatio (num * 10 ^ places.toNat) den
  else roundRatio num (den * 10 ^ (-places).toNat)

/-- The number rounded to `count` significant digits. Zero has its point behind the first digit. -/
def rounded (x : Binary64) (count : Nat) : Decimal :=
  if x.isZero then ⟨0, 1⟩
  else
    let (num, den) := scaleDown x.significand 1 (-x.power)
    let point := decimalPoint num den (-330) 700
    let digits := x.roundedAt (count - point)
    -- Rounding up to the next power of ten moves the point by one.
    if 10 ^ count ≤ digits then ⟨digits / 10, point + 1⟩ else ⟨digits, point⟩

def zeroPadded (count : Nat) (digits : List Char) : List Char :=
  List.replicate (count - digits.length) '0' ++ digits

/-- Digits before a point and digits behind it. Without digits behind it the point stands only if
it is kept. -/
def pointed (keepPoint : Bool) (whole fraction : List Char) : List Char :=
  if fraction.isEmpty && !keepPoint then whole else whole ++ '.' :: fraction

/-- The number with `places` digits behind the point. -/
def positional (x : Binary64) (keepPoint : Bool) (places : Nat) : List Char :=
  let digits := zeroPadded (places + 1) (Nat.toDigits 10 (x.roundedAt places))
  let whole := digits.length - places
  pointed keepPoint (digits.take whole) (digits.drop whole)

/-- The number with one digit before the point, `places` behind it, and an exponent. -/
def scientific (x : Binary64) (keepPoint : Bool) (places : Nat) : List Char :=
  let d := x.rounded (places + 1)
  let digits := zeroPadded (places + 1) (Nat.toDigits 10 d.digits)
  pointed keepPoint (digits.take 1) (digits.drop 1) ++ 'e' :: exponentText (d.point - 1)

def aroundPoint (keepPoint : Bool) (digits : List Char) (point : Int) : List Char :=
  if point ≤ 0 then ['0', '.'] ++ List.replicate (-point).toNat '0' ++ digits
  else
    let whole := digits.take point.toNat
    pointed keepPoint (whole ++ List.replicate (point.toNat - whole.length) '0')
      (digits.drop point.toNat)

/-- The number with `count` significant digits, with an exponent if it is small or has more digits
before the point than that. Zeros at the end stand only if the point is kept. -/
def general (x : Binary64) (keepPoint : Bool) (count : Nat) : List Char :=
  let count := max count 1
  let d := x.rounded count
  let all := zeroPadded count (Nat.toDigits 10 d.digits)
  let digits :=
    if keepPoint then all
    else all.take 1 ++ ((all.drop 1).reverse.dropWhile (· = '0')).reverse
  if d.point ≤ -4 || (count : Int) < d.point then
    pointed keepPoint (digits.take 1) (digits.drop 1) ++ 'e' :: exponentText (d.point - 1)
  else aroundPoint keepPoint digits d.point

end SourceAttest.Binary64
