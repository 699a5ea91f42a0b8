/-!
# Binary floating-point numbers

A double-precision number is kept as its 64 bits: a sign, eleven bits of
exponent and 52 bits of significand.  Two orders are defined on it.  The
numerical comparisons `equals`, `le` and `lt` never hold of a NaN and
identify the two zeros.  The order of `rank` is total on all bit patterns:
negative NaNs come first, positive NaNs last, and `-0` is below `0`.
-/

namespace DocQuery

/-- A double-precision number, given by its bits. -/
structure Binary64 where
  /-- Sign, exponent and significand, from the highest bit down. -/
  bits : UInt64
  deriving DecidableEq, Repr, Inhabited

namespace Binary64

/-- The sign bit is set. -/
def negative (number : Binary64) : Bool :=
  decide (0x8000000000000000 ≤ number.bits.toNat)

/-- All bits but the sign. -/
def magnitude (number : Binary64) : Nat :=
  number.bits.toNat % 0x8000000000000000

/-- The magnitude of the infinities: all exponent bits, no significand. -/
def infiniteMagnitude : Nat := 0x7FF0000000000000

/-- The number with a sign and the other 63 bits. -/
def ofMagnitude (negative : Bool) (magnitude : Nat) : Binary64 :=
  ⟨UInt64.ofNat
    (if negative then 0x8000000000000000 + magnitude else magnitude)⟩

/-- The bits denote no number. -/
def isNaN (number : Binary64) : Bool :=
  decide (infiniteMagnitude < number.magnitude)

/-- Neither infinite nor a NaN. -/
def isFinite (number : Binary64) : Bool :=
  decide (number.magnitude < infiniteMagnitude)

/-- One of the two infinities. -/
def isInfinite (number : Binary64) : Bool :=
  number.magnitude == infiniteMagnitude

/-- One of the two zeros. -/
def isZero (number : Binary64) : Bool := number.magnitude == 0

/-- The zero of a sign. -/
def zero (negative : Bool) : Binary64 := ofMagnitude negative 0

/-- The infinity of a sign. -/
def infinity (negative : Bool) : Binary64 :=
  ofMagnitude negative infiniteMagnitude

/-- The quiet NaN of a sign, without payload. -/
def quietNaN (negative : Bool) : Binary64 :=
  ofMagnitude negative (infiniteMagnitude + 0x8000000000000)

/-- The number of the opposite sign. -/
def opposite (number : Binary64) : Binary64 :=
  ofMagnitude (!number.negative) number.magnitude

/-- The significand of a finite number as an integer. -/
def significand (number : Binary64) : Nat :=
  if number.magnitude < 0x10000000000000 then
    number.magnitude
  else
    number.magnitude % 0x10000000000000 + 0x10000000000000

/-- The exponent that goes with `significand`: a finite number is
`± significand * 2 ^ exponent`. -/
def exponent (number : Binary64) : Int :=
  if number.magnitude < 0x10000000000000 then
    -1074
  else
    (number.magnitude / 0x10000000000000 : Nat) - 1075

/-- The position of a bit pattern in the total order. -/
def rank (number : Binary64) : Int :=
  if number.negative then
    -(number.magnitude : Int) - 1
  else
    number.magnitude

/-- Compare by position in the total order of all bit patterns. -/
def totalCompare (left right : Binary64) : Ordering :=
  compare left.rank right.rank

/-- The position of a number that is no NaN, the same for both zeros. -/
def signedMagnitude (number : Binary64) : Int :=
  if number.negative then -(number.magnitude : Int) else number.magnitude

/-- Numerical equality. -/
def equals (left right : Binary64) : Bool :=
  !left.isNaN && !right.isNaN && left.signedMagnitude == right.signedMagnitude

/-- Numerical order. -/
def le (left right : Binary64) : Bool :=
  !left.isNaN && !right.isNaN &&
    decide (left.signedMagnitude ≤ right.signedMagnitude)

/-- Strict numerical order. -/
def lt (left right : Binary64) : Bool :=
  !left.isNaN && !right.isNaN &&
    decide (left.signedMagnitude < right.signedMagnitude)

/-- Below zero. -/
def isBelowZero (number : Binary64) : Bool := number.lt (zero false)

/-- The integer part, cut toward zero, of a finite number. -/
def truncate? (number : Binary64) : Option Int :=
  if number.isFinite then
    let whole : Nat :=
      if 0 ≤ number.exponent then
        number.significand * Nat.pow 2 number.exponent.toNat
      else
        number.significand / Nat.pow 2 (-number.exponent).toNat
    some (if number.negative then -(whole : Int) else whole)
  else
    none

/-- Sign and magnitude determine the bits. -/
theorem ofMagnitude_negative_magnitude (number : Binary64) :
    ofMagnitude number.negative number.magnitude = number := by
  obtain ⟨bits⟩ := number
  have below : bits.toNat < 0x10000000000000000 := bits.toNat_lt
  simp only [ofMagnitude, negative, magnitude, Binary64.mk.injEq]
  apply UInt64.toNat_inj.mp
  rw [UInt64.toNat_ofNat']
  by_cases high : 0x8000000000000000 ≤ bits.toNat
  · simp only [high, decide_true, if_true]
    omega
  · simp only [high, decide_false, Bool.false_eq_true, if_false]
    omega

end Binary64

end DocQuery
