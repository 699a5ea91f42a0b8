import DocQuery.Number.Binary64

/-!
# Shortest decimal digits

The fewest decimal digits that still determine a double-precision number.
The reals that round to a number form an interval around it.  For one, two,
and up to seventeen digits, the two neighbours of the number on that decimal
grid are tested; the first grid with a point in the interval wins, and of two
points the nearer one.
-/

namespace DocQuery

/-- The number `digits * 10 ^ exponent`. -/
structure ScaledDigits where
  /-- The digits, read as one natural number. -/
  digits : Nat
  /-- The decimal exponent of the last digit. -/
  exponent : Int
  deriving DecidableEq, Repr, Inhabited

/-- Which of two equally near decimals is taken. -/
inductive TieRule where
  | toEven
  | upward
  deriving DecidableEq, Repr

namespace Shortest

/-- The count of decimal digits of a natural number. -/
def digitCount (value : Nat) : Nat := (Nat.toDigits 10 value).length

/-- A positive quotient with the interval of the reals that round to its
number, all over one denominator. -/
structure Interval where
  /-- The lower end. -/
  low : Nat
  /-- The number itself. -/
  middle : Nat
  /-- The upper end. -/
  high : Nat
  /-- The common denominator. -/
  denominator : Nat
  /-- Both ends round to the number too. -/
  closed : Bool

/-- The interval of a finite nonzero number.  Below a power of two the gap to
the next number is half as wide. -/
def interval (number : Binary64) : Interval :=
  let significand := number.significand
  let exponent := number.exponent
  let below :=
    if significand = 0x10000000000000 ∧ -1074 < exponent then 1 else 2
  let scale := if 2 ≤ exponent then Nat.pow 2 (exponent - 2).toNat else 1
  { low := (4 * significand - below) * scale
    middle := 4 * significand * scale
    high := (4 * significand + 2) * scale
    denominator := if 2 ≤ exponent then 1 else Nat.pow 2 (2 - exponent).toNat
    closed := significand % 2 = 0 }

namespace Interval

/-- The decimal exponent of the leading digit of the number. -/
def leadingExponent (range : Interval) : Int :=
  let guess : Int := (digitCount range.middle : Int) - digitCount range.denominator
  let reaches : Bool :=
    if 0 ≤ guess then
      decide (range.denominator * Nat.pow 10 guess.toNat ≤ range.middle)
    else
      decide (range.denominator ≤ range.middle * Nat.pow 10 (-guess).toNat)
  if reaches then guess else guess - 1

/-- The interval measured in units of `10 ^ exponent`. -/
def inUnits (range : Interval) (exponent : Int) : Interval :=
  if 0 ≤ exponent then
    { range with denominator := range.denominator * Nat.pow 10 exponent.toNat }
  else
    let factor := Nat.pow 10 (-exponent).toNat
    { range with
      low := range.low * factor
      middle := range.middle * factor
      high := range.high * factor }

/-- A whole number of units lies in the interval. -/
def holds (range : Interval) (units : Nat) : Bool :=
  let point := units * range.denominator
  if range.closed then
    decide (range.low ≤ point ∧ point ≤ range.high)
  else
    decide (range.low < point ∧ point < range.high)

/-- The nearest whole number of units in the interval, if there is one. -/
def nearest? (range : Interval) (tie : TieRule) : Option Nat :=
  let lower := range.middle / range.denominator
  let twice := 2 * (range.middle % range.denominator)
  match range.holds lower, range.holds (lower + 1) with
  | false, false => none
  | true, false => some lower
  | false, true => some (lower + 1)
  | true, true =>
    if twice < range.denominator then some lower
    else if range.denominator < twice then some (lower + 1)
    else
      match tie with
      | .upward => some (lower + 1)
      | .toEven => some (if lower % 2 = 0 then lower else lower + 1)

/-- Try grids of `count`, `count + 1`, … digits, `more` of them. -/
def search (range : Interval) (tie : TieRule) (leading : Int) :
    Nat → Nat → ScaledDigits
  | 0, _ => ⟨0, 0⟩
  | more + 1, count =>
    let exponent := leading - count + 1
    match (range.inUnits exponent).nearest? tie with
    | some units => ⟨units, exponent⟩
    | none => search range tie leading more (count + 1)

end Interval

/-- Move the zeros at the end of the digits into the exponent; `fuel` bounds
their count. -/
def dropZeros : Nat → ScaledDigits → ScaledDigits
  | 0, decimal => decimal
  | fuel + 1, decimal =>
    if decimal.digits ≠ 0 ∧ decimal.digits % 10 = 0 then
      dropZeros fuel ⟨decimal.digits / 10, decimal.exponent + 1⟩
    else
      decimal

/-- The fewest digits that determine the magnitude of a finite nonzero
number. -/
def digits (tie : TieRule) (number : Binary64) : ScaledDigits :=
  let range := interval number
  dropZeros 20 (range.search tie range.leadingExponent 17 1)

example : digits .toEven ⟨0x3FB999999999999A⟩ = ⟨1, -1⟩ := by decide +kernel
example : digits .toEven ⟨0x3FD3333333333334⟩ = ⟨30000000000000004, -17⟩ := by
  decide +kernel
example : digits .toEven ⟨1⟩ = ⟨5, -324⟩ := by decide +kernel

end Shortest

end DocQuery
