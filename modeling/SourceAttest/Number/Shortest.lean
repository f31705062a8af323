import SourceAttest.Number.Binary64

/-!
# Shortest decimals

A finite number is written with the fewest digits that read back as the same number, and of those
with the digits nearest to it.
-/
namespace SourceAttest.Binary64

-- Powers of natural numbers are the built-in ones, whatever else is imported.
attribute [local instance (2000)] instPowNat

/-- A positive decimal `digits * 10 ^ (point - count)`, where `count` is the number of digits. -/
structure Decimal where
  digits : Nat
  point : Int
deriving Repr, DecidableEq

/-- The least `k` with `num / den < 10 ^ k`, searched upwards from `start`. -/
def decimalPoint (num den : Nat) (start : Int) : Nat → Int
  | 0 => start
  | fuel + 1 =>
    let below := if 0 ≤ start then num < den * 10 ^ start.toNat else num * 10 ^ (-start).toNat < den
    if below then start else decimalPoint num den (start + 1) fuel

/-- The ratios that round to `m * 2 ^ q` lie between `low / den` and `high / den`. -/
structure Interval where
  low : Nat
  value : Nat
  high : Nat
  den : Nat
  closed : Bool

/-- The rounding interval of a positive finite number. The gap below a power of two is half the
gap above it. -/
def interval (x : Binary64) : Interval :=
  let m := x.significand
  let gapBelow := if x.fractionField = 0 && 1 < x.exponentField then 1 else 2
  let (num, den) := scaleDown (4 * m) 4 (-x.power)
  let unit := num / (4 * m)
  ⟨num - gapBelow * unit, num, num + 2 * unit, den, m % 2 = 0⟩

def Interval.contains (i : Interval) (n : Nat) (e : Int) : Bool :=
  let point := if 0 ≤ e then n * 10 ^ e.toNat * i.den else n * i.den
  let scale := if 0 ≤ e then 1 else 10 ^ (-e).toNat
  if i.closed then i.low * scale ≤ point && point ≤ i.high * scale
  else i.low * scale < point && point < i.high * scale

/-- Of the two neighbours of the value on the grid `10 ^ e`, the one in the interval that is
nearer; a tie goes to the even one. -/
def Interval.onGrid? (i : Interval) (e : Int) : Option Nat :=
  let num := if 0 ≤ e then i.value else i.value * 10 ^ (-e).toNat
  let den := if 0 ≤ e then i.den * 10 ^ e.toNat else i.den
  let below := num / den
  let twice := 2 * (num % den)
  let nearer := if twice > den || (twice = den && below % 2 = 1) then below + 1 else below
  let farther := if nearer = below then below + 1 else below
  if i.contains nearer e then some nearer
  else if i.contains farther e then some farther
  else none

/-- Try grids of one, two, … digits. -/
def shortestFrom (i : Interval) (point : Int) : Nat → Nat → Decimal
  | _, 0 => ⟨0, point⟩
  | count, fuel + 1 =>
    match i.onGrid? (point - count) with
    | some n => if n = 0 then shortestFrom i point (count + 1) fuel
      else
        -- Rounding up to the next power of ten moves the point by one.
        if 10 ^ count ≤ n then ⟨n / 10, point + 1⟩ else ⟨n, point⟩
    | none => shortestFrom i point (count + 1) fuel

def shortest (x : Binary64) : Decimal :=
  let i := x.interval
  shortestFrom i (decimalPoint i.value i.den (-330) 700) 1 17

/-- The digits of a decimal, without trailing zeros. -/
def Decimal.text (d : Decimal) : List Char :=
  ((Nat.toDigits 10 d.digits).reverse.dropWhile (· = '0')).reverse

/-- An exponent with its sign and at least two digits. -/
def exponentText (e : Int) : List Char :=
  let ds := Nat.toDigits 10 e.natAbs
  (if e < 0 then '-' else '+') :: (if ds.length < 2 then '0' :: ds else ds)

/-- Digits around a decimal point. Up to sixteen digits stand before the point and up to four
zeros behind it; beyond that the text has an exponent. -/
def layOut (digits : List Char) (point : Int) : List Char :=
  if -4 < point && point ≤ 16 then
    if point ≤ 0 then ['0', '.'] ++ List.replicate (-point).toNat '0' ++ digits
    else
      let whole := digits.take point.toNat
      let padded := whole ++ List.replicate (point.toNat - whole.length) '0'
      let fraction := digits.drop point.toNat
      padded ++ '.' :: (if fraction.isEmpty then ['0'] else fraction)
  else
    match digits with
    | [] => []
    | [d] => d :: 'e' :: exponentText (point - 1)
    | d :: rest => d :: '.' :: rest ++ 'e' :: exponentText (point - 1)

/-- The text of a number: `inf` and `nan` for the special ones, a point or an exponent in every
other. -/
def text (x : Binary64) : String :=
  if x.isNaN then "nan"
  else
    let sign := if x.isNegative then "-" else ""
    if x.isInfinite then sign ++ "inf"
    else if x.isZero then sign ++ "0.0"
    else
      let d := x.shortest
      sign ++ String.ofList (layOut d.text d.point)

end SourceAttest.Binary64
