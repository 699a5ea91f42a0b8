import DocQuery.Value.Number
import Mathlib.Tactic.Common

/-!
# Numbers below zero

Whether a number is below zero is asked of the double-precision number nearest
to it.  That is the sign of the number itself, except for decimals: one that is
too close to zero becomes the zero of its sign, which is not below zero.
-/

namespace DocQuery

namespace Binary64

/-! ## Signs of nearest numbers -/

theorem negative_ofMagnitude {magnitude : Nat}
    (finite : magnitude ≤ infiniteMagnitude) (negative : Bool) :
    (ofMagnitude negative magnitude).negative = negative := by
  have bound : magnitude ≤ 0x7FF0000000000000 := finite
  cases negative with
  | true =>
    have small : 0x8000000000000000 + magnitude < 0x10000000000000000 := by
      omega
    simp [ofMagnitude, Binary64.negative, Nat.mod_eq_of_lt small]
  | false =>
    have small : magnitude < 0x10000000000000000 := by omega
    simp only [ofMagnitude, Binary64.negative, Bool.false_eq_true, if_false,
      UInt64.toNat_ofNat', decide_eq_false_iff_not]
    rw [Nat.mod_eq_of_lt small]
    omega

theorem magnitude_ofMagnitude {magnitude : Nat}
    (finite : magnitude ≤ infiniteMagnitude) (negative : Bool) :
    (ofMagnitude negative magnitude).magnitude = magnitude := by
  have bound : magnitude ≤ 0x7FF0000000000000 := finite
  cases negative <;>
    simp only [ofMagnitude, Binary64.magnitude, Bool.false_eq_true, if_true,
      if_false, UInt64.toNat_ofNat'] <;>
    omega

theorem isZero_ofMagnitude {magnitude : Nat}
    (finite : magnitude ≤ infiniteMagnitude) (negative : Bool) :
    (ofMagnitude negative magnitude).isZero = (magnitude == 0) := by
  rw [isZero, magnitude_ofMagnitude finite]

theorem isBelowZero_eq (number : Binary64) :
    number.isBelowZero =
      (!number.isNaN && number.negative && !number.isZero) := by
  have zeroNumber : (zero false).isNaN = false := by decide
  have zeroMagnitude : (zero false).signedMagnitude = 0 := by decide
  rw [isBelowZero, lt, zeroNumber, zeroMagnitude, signedMagnitude]
  cases number.isNaN with
  | true => rfl
  | false =>
    cases number.negative with
    | false => simp
    | true =>
      by_cases nothing : number.magnitude = 0
      · simp [isZero, nothing]
      · have positive : 0 < number.magnitude := Nat.pos_of_ne_zero nothing
        simp [isZero, nothing, positive]

/-- A number made of a sign and a magnitude is below zero if the sign says so
and the magnitude is not zero. -/
theorem isBelowZero_ofMagnitude {magnitude : Nat}
    (finite : magnitude ≤ infiniteMagnitude) (negative : Bool) :
    (ofMagnitude negative magnitude).isBelowZero =
      (negative && magnitude != 0) := by
  have number : (ofMagnitude negative magnitude).isNaN = false := by
    simpa [isNaN, magnitude_ofMagnitude finite] using finite
  rw [isBelowZero_eq, number, negative_ofMagnitude finite,
    isZero_ofMagnitude finite]
  rfl

/-- The nearest number to a quotient keeps the sign of the quotient. -/
theorem exists_ofRatio_eq (negative : Bool) (numerator denominator : Nat) :
    ∃ magnitude ≤ infiniteMagnitude,
      ofRatio negative numerator denominator =
        ofMagnitude negative magnitude := by
  unfold ofRatio
  split
  · exact ⟨0, Nat.zero_le _, rfl⟩
  · exact ⟨_, Nat.min_le_right _ _, rfl⟩

theorem exists_ofDecimal_eq (negative : Bool) (digits count : Nat)
    (exponent : Int) :
    ∃ magnitude ≤ infiniteMagnitude,
      ofDecimal negative digits count exponent =
        ofMagnitude negative magnitude := by
  unfold ofDecimal
  split_ifs
  · exact ⟨0, Nat.zero_le _, rfl⟩
  · exact ⟨_, Nat.le_refl _, rfl⟩
  · exact ⟨0, Nat.zero_le _, rfl⟩
  · exact exists_ofRatio_eq _ _ _
  · exact exists_ofRatio_eq _ _ _

/-- The leading bit of a natural number is that of its logarithm. -/
theorem leadingExponent_natural {number : Nat} (positive : number ≠ 0) :
    leadingExponent number 1 = number.log2 := by
  have reaches : Nat.pow 2 number.log2 ≤ number := Nat.log2_self_le positive
  have unit : Nat.log2 1 = 0 := by decide
  simp only [leadingExponent, unit]
  have guess : (0 : Int) ≤ (number.log2 : Int) - ((0 : Nat) : Int) := by omega
  rw [if_pos guess]
  simp only [Int.sub_zero, Int.ofNat_zero, Int.toNat_natCast, Nat.one_mul,
    reaches, decide_true, if_true]

/-- The nearest number to an integer is zero for zero only. -/
theorem isBelowZero_ofInt (value : Int) :
    (ofInt value).isBelowZero = decide (value < 0) := by
  by_cases nothing : value = 0
  · subst nothing
    decide
  · have positive : value.natAbs ≠ 0 := Int.natAbs_ne_zero.mpr nothing
    have leading := leadingExponent_natural positive
    rw [ofInt, ofRatio, if_neg positive]
    rw [isBelowZero_ofMagnitude (Nat.min_le_right _ _)]
    have scaled : 1 ≤
        (max (leadingExponent value.natAbs 1 - 52) (-1074) + 1074).toNat := by
      omega
    have filled : ∀ significand : Nat, min
        ((max (leadingExponent value.natAbs 1 - 52) (-1074) + 1074).toNat *
          0x10000000000000 + significand) infiniteMagnitude ≠ 0 := by
      intro significand
      have bound : infiniteMagnitude = 0x7FF0000000000000 := rfl
      omega
    rw [bne_iff_ne.mpr (filled _), Bool.and_true]

end Binary64

namespace Value

/-! ## Signs of values -/

/-- A number that is itself below zero. -/
def isNegative : Value → Bool
  | .int32 number => decide (number.toInt < 0)
  | .int64 number => decide (number.toInt < 0)
  | .double number => number.isBelowZero
  | .decimal (.finite negative digits _) => negative && digits != 0
  | .decimal (.infinite negative) => negative
  | _ => false

/-- The double-precision number nearest to a value is zero. -/
def roundsToZero (value : Value) : Bool :=
  value.toBinary64?.any Binary64.isZero

theorem roundsToZero_of_isBelowZero {value : Value}
    (below : value.isBelowZero = true) : value.roundsToZero = false := by
  unfold isBelowZero at below
  unfold roundsToZero
  cases number : value.toBinary64? with
  | none => rfl
  | some nearest =>
    simp only [number, Binary64.isBelowZero_eq, Bool.and_eq_true,
      Bool.not_eq_true'] at below
    exact below.2

/-- A decimal counts as below zero exactly if its nearest number is not zero
and its sign says so. -/
theorem isBelowZero_decimal (number : Decimal128) :
    (Value.decimal number).isBelowZero =
      ((Value.decimal number).isNegative &&
        !(Value.decimal number).roundsToZero) := by
  cases number with
  | nan negative signalling => rfl
  | infinite negative =>
    cases negative <;> decide
  | finite negative digits exponent =>
    rcases Binary64.exists_ofDecimal_eq negative digits
      (Shortest.digitCount digits) exponent with ⟨magnitude, finite, nearest⟩
    have below :
        (Value.decimal (.finite negative digits exponent)).isBelowZero =
          (negative && magnitude != 0) := by
      rw [← Binary64.isBelowZero_ofMagnitude finite, ← nearest]
      rfl
    have zero :
        (Value.decimal (.finite negative digits exponent)).roundsToZero =
          (magnitude == 0) := by
      rw [← Binary64.isZero_ofMagnitude finite negative, ← nearest]
      rfl
    by_cases nothing : digits = 0
    · have rounded : magnitude = 0 := by
        rw [nothing, Binary64.ofDecimal, if_pos rfl] at nearest
        have same := congrArg Binary64.magnitude nearest
        rw [Binary64.magnitude_ofMagnitude finite, Binary64.zero,
          Binary64.magnitude_ofMagnitude (Nat.zero_le _)] at same
        exact same.symm
      rw [below, zero, rounded]
      simp
    · rw [below, zero, isNegative, bne_iff_ne.mpr nothing, Bool.and_true]
      rfl

/-- A value counts as below zero exactly if it is below zero and does not round
to zero. -/
theorem isBelowZero_eq (value : Value) :
    value.isBelowZero = (value.isNegative && !value.roundsToZero) := by
  have exact_sign (same : value.isBelowZero = value.isNegative) :
      value.isBelowZero = (value.isNegative && !value.roundsToZero) := by
    rw [← same]
    cases below : value.isBelowZero with
    | false => rfl
    | true => simp [roundsToZero_of_isBelowZero below]
  cases value with
  | int32 number => exact exact_sign (Binary64.isBelowZero_ofInt _)
  | int64 number => exact exact_sign (Binary64.isBelowZero_ofInt _)
  | decimal number => exact isBelowZero_decimal number
  | _ => exact exact_sign rfl

end Value

end DocQuery
