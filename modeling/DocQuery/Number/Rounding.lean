import DocQuery.Number.Binary64

/-!
# Rounding to binary floating point

The nearest double-precision number to a quotient of natural numbers, with a
tie going to the even significand, and the arithmetic that is defined by it:
an operation gives the nearest number to its exact result.
-/

namespace DocQuery.Binary64

/-- The exponent of two at the leading bit of a positive quotient. -/
def leadingExponent (numerator denominator : Nat) : Int :=
  let guess : Int := (Nat.log2 numerator : Int) - Nat.log2 denominator
  let reaches : Bool :=
    if 0 ≤ guess then
      decide (denominator * Nat.pow 2 guess.toNat ≤ numerator)
    else
      decide (denominator ≤ numerator * Nat.pow 2 (-guess).toNat)
  if reaches then guess else guess - 1

/-- The natural number nearest to a quotient, a tie going to the even one. -/
def nearestEven (numerator denominator : Nat) : Nat :=
  let quotient := numerator / denominator
  let twice := 2 * (numerator % denominator)
  if denominator < twice ∨ (twice = denominator ∧ quotient % 2 = 1) then
    quotient + 1
  else
    quotient

/-- The number nearest to a quotient.  A quotient beyond the largest finite
number by half a unit or more becomes infinite. -/
def ofRatio (negative : Bool) (numerator denominator : Nat) : Binary64 :=
  if numerator = 0 then
    zero negative
  else
    let scale := max (leadingExponent numerator denominator - 52) (-1074)
    let significand :=
      if 0 ≤ scale then
        nearestEven numerator (denominator * Nat.pow 2 scale.toNat)
      else
        nearestEven (numerator * Nat.pow 2 (-scale).toNat) denominator
    let magnitude := (scale + 1074).toNat * 0x10000000000000 + significand
    ofMagnitude negative (min magnitude infiniteMagnitude)

/-- The number nearest to an integer. -/
def ofInt (value : Int) : Binary64 := ofRatio (decide (value < 0)) value.natAbs 1

/-- The number nearest to `± significand * 2 ^ exponent`. -/
def ofDyadic (negative : Bool) (significand : Nat) (exponent : Int) :
    Binary64 :=
  if 0 ≤ exponent then
    ofRatio negative (significand * Nat.pow 2 exponent.toNat) 1
  else
    ofRatio negative significand (Nat.pow 2 (-exponent).toNat)

/-- The number nearest to `± digits * 10 ^ exponent`, where `digits` has
`count` decimal digits.  Far outside the range of finite numbers the result is
known from the decimal exponent of the leading digit alone. -/
def ofDecimal (negative : Bool) (digits count : Nat) (exponent : Int) :
    Binary64 :=
  if digits = 0 then
    zero negative
  else if 400 < exponent + count then
    infinity negative
  else if exponent + count < -400 then
    zero negative
  else if 0 ≤ exponent then
    ofRatio negative (digits * Nat.pow 10 exponent.toNat) 1
  else
    ofRatio negative digits (Nat.pow 10 (-exponent).toNat)

/-- The significand with its sign. -/
def signedSignificand (number : Binary64) : Int :=
  if number.negative then -(number.significand : Int) else number.significand

/-- The NaN that an operation passes on: its operand made quiet. -/
def quiet (number : Binary64) : Binary64 :=
  ⟨number.bits ||| 0x0008000000000000⟩

/-- The exact sum of two finite numbers, rounded.  A sum of zero is `-0` only
when both operands are. -/
def addFinite (left right : Binary64) : Binary64 :=
  let scale := min left.exponent right.exponent
  let sum : Int :=
    left.signedSignificand * Nat.pow 2 (left.exponent - scale).toNat +
      right.signedSignificand * Nat.pow 2 (right.exponent - scale).toNat
  if sum = 0 then
    zero (left.negative && right.negative && left.isZero && right.isZero)
  else
    ofDyadic (decide (sum < 0)) sum.natAbs scale

/-- Addition.  The first operand that is a NaN is passed on; infinities of
opposite signs give the NaN with the sign bit set. -/
def add (left right : Binary64) : Binary64 :=
  if left.isNaN then left.quiet
  else if right.isNaN then right.quiet
  else if left.isInfinite then
    if right.isInfinite && left.negative != right.negative then quietNaN true
    else left
  else if right.isInfinite then right
  else addFinite left right

/-- Subtraction: addition of the opposite number. -/
def sub (left right : Binary64) : Binary64 := left.add right.opposite

/-- The product of two finite numbers, rounded. -/
def mulFinite (left right : Binary64) : Binary64 :=
  ofDyadic (left.negative != right.negative)
    (left.significand * right.significand) (left.exponent + right.exponent)

/-- The quotient of a finite number by a finite nonzero one, rounded. -/
def divFinite (left right : Binary64) : Binary64 :=
  let negative := left.negative != right.negative
  let scale := left.exponent - right.exponent
  if 0 ≤ scale then
    ofRatio negative (left.significand * Nat.pow 2 scale.toNat) right.significand
  else
    ofRatio negative left.significand
      (right.significand * Nat.pow 2 (-scale).toNat)

/-- The largest natural number whose square is at most `number`, found from
the one for `number / 4`; `bits` bounds the number of halvings. -/
def floorRoot : Nat → Nat → Nat
  | 0, _ => 0
  | bits + 1, number =>
    if number = 0 then
      0
    else
      let root := 2 * floorRoot bits (number / 4)
      if (root + 1) * (root + 1) ≤ number then root + 1 else root

/-- The number nearest to the square root of `radicand * 4 ^ scale`.  The root
is taken with more bits than a significand holds, and one more bit tells
whether anything is left over. -/
def rootOf (radicand : Nat) (scale : Int) : Binary64 :=
  if radicand = 0 then
    zero false
  else
    let shift : Nat := 64
    let widened := radicand * Nat.pow 4 shift
    let root := floorRoot (Nat.log2 widened + 1) widened
    let sticky := if root * root = widened then 0 else 1
    ofDyadic false (2 * root + sticky) (scale - shift - 1)

/-- The length of the vector `(x, y)`.  An infinite component makes the length
infinite whatever the other one is. -/
def hypotenuse (x y : Binary64) : Binary64 :=
  if x.isInfinite || y.isInfinite then infinity false
  else if x.isNaN then x.quiet
  else if y.isNaN then y.quiet
  else
    let scale := min x.exponent y.exponent
    let wide := x.significand * Nat.pow 2 (x.exponent - scale).toNat
    let high := y.significand * Nat.pow 2 (y.exponent - scale).toNat
    rootOf (wide * wide + high * high) scale

/-- The rounded quotient differs from the exact one by at most a half. -/
theorem nearestEven_le (numerator denominator : Nat) :
    nearestEven numerator denominator ≤ numerator / denominator + 1 := by
  simp only [nearestEven]
  split <;> omega

/-- A whole quotient is not changed by rounding. -/
@[simp]
theorem nearestEven_one (numerator : Nat) :
    nearestEven numerator 1 = numerator := by
  simp [nearestEven, Nat.mod_one]

@[simp]
theorem ofRatio_zero (negative : Bool) (denominator : Nat) :
    ofRatio negative 0 denominator = zero negative := by
  simp [ofRatio]

example : ofInt 1 = ⟨0x3FF0000000000000⟩ := by decide +kernel
example : ofInt (-0x20000000000001) = ⟨0xC340000000000000⟩ := by decide +kernel
example : ofDecimal false 1 1 (-1) = ⟨0x3FB999999999999A⟩ := by decide +kernel
example : (ofDecimal false 1 1 (-1)).add (ofDecimal false 2 1 (-1)) =
    ⟨0x3FD3333333333334⟩ := by decide +kernel
example : hypotenuse (ofInt 3) (ofInt 4) = ofInt 5 := by decide +kernel

end DocQuery.Binary64
