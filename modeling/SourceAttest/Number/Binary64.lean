/-!
# Binary floating point numbers

A number is its 64-bit word: one sign bit, eleven exponent bits and 52 fraction bits. Numbers are
made from exact ratios by rounding to nearest, a tie to the even significand.
-/
namespace SourceAttest

-- Powers of natural numbers are the built-in ones, whatever else is imported.
attribute [local instance (2000)] instPowNat

structure Binary64 where
  bits : UInt64
deriving DecidableEq, Repr, Inhabited

namespace Binary64

/-- The word with the given sign over the other 63 bits. -/
def withSign (negative : Bool) (magnitude : Nat) : Binary64 :=
  ⟨UInt64.ofNat (if negative then 2 ^ (63 : Nat) + magnitude else magnitude)⟩

def zero (negative : Bool) : Binary64 := withSign negative 0

def infinity (negative : Bool) : Binary64 := withSign negative (2047 * 2 ^ (52 : Nat))

/-- The quiet not-a-number without payload. -/
def nan : Binary64 := withSign false (2047 * 2 ^ (52 : Nat) + 2 ^ (51 : Nat))

def isNegative (x : Binary64) : Bool := 2 ^ (63 : Nat) ≤ x.bits.toNat

def exponentField (x : Binary64) : Nat := x.bits.toNat / 2 ^ (52 : Nat) % 2048

def fractionField (x : Binary64) : Nat := x.bits.toNat % 2 ^ (52 : Nat)

def isNaN (x : Binary64) : Bool := x.exponentField = 2047 && x.fractionField ≠ 0

def isInfinite (x : Binary64) : Bool := x.exponentField = 2047 && x.fractionField = 0

def isZero (x : Binary64) : Bool := x.exponentField = 0 && x.fractionField = 0

/-- The significand `m` of a finite number `m * 2 ^ q`. -/
def significand (x : Binary64) : Nat :=
  if x.exponentField = 0 then x.fractionField else 2 ^ (52 : Nat) + x.fractionField

/-- The power `q` of a finite number `m * 2 ^ q`. -/
def power (x : Binary64) : Int :=
  if x.exponentField = 0 then -1074 else (x.exponentField : Int) - 1075

/-- Nearest integer to a ratio, a tie to the even one. -/
def roundRatio (num den : Nat) : Nat :=
  let q := num / den
  let twice := 2 * (num % den)
  if twice > den || (twice = den && q % 2 = 1) then q + 1 else q

/-- A ratio divided by `2 ^ e`. -/
def scaleDown (num den : Nat) (e : Int) : Nat × Nat :=
  if 0 ≤ e then (num, den * 2 ^ e.toNat) else (num * 2 ^ (-e).toNat, den)

def integer? (x : Binary64) : Option Int :=
  if x.isNaN || x.isInfinite then none
  else
    let (num, den) := scaleDown x.significand 1 (-x.power)
    if num % den = 0 then
      some (if x.isNegative then -((num / den : Nat) : Int) else ((num / den : Nat) : Int))
    else none

/-- The power at which a positive ratio has a 53-bit significand, not below the least power. -/
def fittingPower (num den : Nat) : Int :=
  let guess : Int := (Nat.log2 num : Int) - (Nat.log2 den : Int) - 52
  let (n, d) := scaleDown num den guess
  let exact :=
    if n / d < 2 ^ (52 : Nat) then guess - 1 else if 2 ^ (53 : Nat) ≤ n / d then guess + 1 else guess
  max exact (-1074)

/-- The number nearest to a ratio of natural numbers. -/
def ofRatio (negative : Bool) (num den : Nat) : Binary64 :=
  if num = 0 then zero negative
  else
    let e := fittingPower num den
    let (n, d) := scaleDown num den e
    let m := roundRatio n d
    -- A significand rounded up to 2 ^ 53 carries into the exponent field by itself.
    let magnitude := if m < 2 ^ (52 : Nat) then m else (e + 1074).toNat * 2 ^ (52 : Nat) + m
    if 2047 * 2 ^ (52 : Nat) ≤ magnitude then infinity negative else withSign negative magnitude

/-- The number nearest to `digits * 10 ^ exponent`. Exponents far outside the range are decided by
the count of digits alone. -/
def ofDecimal (negative : Bool) (digits : Nat) (exponent : Int) : Binary64 :=
  let size : Int := (Nat.toDigits 10 digits).length + exponent
  if digits = 0 then zero negative
  else if 310 < size then infinity negative
  else if size < -330 then zero negative
  else if 0 ≤ exponent then ofRatio negative (digits * 10 ^ exponent.toNat) 1
  else ofRatio negative digits (10 ^ (-exponent).toNat)

/-- Widen a word with fewer exponent and fraction bits, keeping its value. -/
def ofNarrow (exponentBits fractionBits word : Nat) : Binary64 :=
  let negative := word / 2 ^ (exponentBits + fractionBits) % 2 = 1
  let exponent := word / 2 ^ fractionBits % 2 ^ exponentBits
  let fraction := word % 2 ^ fractionBits
  let bias := 2 ^ (exponentBits - 1) - 1
  if exponent = 2 ^ exponentBits - 1 then
    if fraction = 0 then infinity negative else nan
  else
    let m := if exponent = 0 then fraction else 2 ^ fractionBits + fraction
    let q : Int := (max exponent 1 : Nat) - (bias : Int) - fractionBits
    let (num, den) := scaleDown m 1 (-q)
    ofRatio negative num den

end Binary64

end SourceAttest
