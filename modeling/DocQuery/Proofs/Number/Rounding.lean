import DocQuery.Proofs.Value.Sign
import Mathlib.Order.Monotone.Basic

/-!
# Rounded integers

The size of a finite number grows with its magnitude, so two numbers compare
like their sizes.  The number nearest to an integer has the size of the nearest
integer that 53 bits can hold, a tie going to the even one.  Rounding keeps the
order of integers but may identify different ones; up to `2 ^ 53` it changes
none.
-/

namespace DocQuery.Binary64

/-! ## Sizes -/

/-- The size of a magnitude in units of the smallest number above zero. -/
def scaled (magnitude : Nat) : Nat :=
  if magnitude < 0x10000000000000 then
    magnitude
  else
    (magnitude % 0x10000000000000 + 0x10000000000000) *
      Nat.pow 2 (magnitude / 0x10000000000000 - 1)

theorem scaled_lt_scaled_succ (magnitude : Nat) :
    scaled magnitude < scaled (magnitude + 1) := by
  rcases Nat.lt_or_ge magnitude 0x10000000000000 with small | large
  · rcases Nat.lt_or_ge (magnitude + 1) 0x10000000000000 with within | last
    · simp only [scaled, small, within, if_true]
      omega
    · have next : magnitude + 1 = 0x10000000000000 := by omega
      rw [next, scaled, if_pos small]
      exact small
  · have beyond : ¬ magnitude < 0x10000000000000 := by omega
    have further : ¬ magnitude + 1 < 0x10000000000000 := by omega
    simp only [scaled, beyond, further, if_false]
    by_cases carries : magnitude % 0x10000000000000 = 0xFFFFFFFFFFFFF
    · -- The significand is full, and the next one starts over twice as high.
      have quotient : (magnitude + 1) / 0x10000000000000 - 1 =
          magnitude / 0x10000000000000 - 1 + 1 := by omega
      have remainder : (magnitude + 1) % 0x10000000000000 = 0 := by omega
      have positive : 0 < Nat.pow 2 (magnitude / 0x10000000000000 - 1) :=
        Nat.two_pow_pos _
      have doubled : Nat.pow 2 (magnitude / 0x10000000000000 - 1 + 1) =
          Nat.pow 2 (magnitude / 0x10000000000000 - 1) * 2 := rfl
      rw [quotient, remainder, carries, doubled]
      omega
    · have quotient : (magnitude + 1) / 0x10000000000000 =
          magnitude / 0x10000000000000 := by omega
      have remainder : (magnitude + 1) % 0x10000000000000 =
          magnitude % 0x10000000000000 + 1 := by omega
      rw [quotient, remainder]
      exact Nat.mul_lt_mul_of_pos_right (by omega) (Nat.two_pow_pos _)

theorem strictMono_scaled : StrictMono scaled :=
  strictMono_nat_of_lt_succ scaled_lt_scaled_succ

/-- A full significand stands for itself at its exponent, also when it has to
be carried into the exponent. -/
theorem scaled_of_significand {exponent significand : Nat}
    (full : 0x10000000000000 ≤ significand)
    (bounded : significand ≤ 0x20000000000000) :
    scaled (exponent * 0x10000000000000 + significand) =
      significand * Nat.pow 2 exponent := by
  have beyond :
      ¬ exponent * 0x10000000000000 + significand < 0x10000000000000 := by
    omega
  simp only [scaled, beyond, if_false]
  rcases Nat.lt_or_eq_of_le bounded with within | carried
  · have quotient : (exponent * 0x10000000000000 + significand) /
        0x10000000000000 - 1 = exponent := by omega
    have remainder : (exponent * 0x10000000000000 + significand) %
        0x10000000000000 + 0x10000000000000 = significand := by omega
    rw [quotient, remainder]
  · have quotient : (exponent * 0x10000000000000 + significand) /
        0x10000000000000 - 1 = exponent + 1 := by omega
    have remainder : (exponent * 0x10000000000000 + significand) %
        0x10000000000000 = 0 := by omega
    have doubled : Nat.pow 2 (exponent + 1) = Nat.pow 2 exponent * 2 := rfl
    rw [quotient, remainder, carried, doubled]
    omega

/-! ## Nearest natural numbers -/

theorem div_le_nearestEven (numerator denominator : Nat) :
    numerator / denominator ≤ nearestEven numerator denominator := by
  simp only [nearestEven]
  split <;> omega

/-- A quotient is rounded by half a unit at most. -/
theorem nearestEven_near {denominator : Nat} (positive : 0 < denominator)
    (numerator : Nat) :
    2 * ((numerator : Int) -
      (nearestEven numerator denominator * denominator : Nat)).natAbs ≤
        denominator := by
  have parts := Nat.div_add_mod' numerator denominator
  have below := Nat.mod_lt numerator positive
  simp only [nearestEven]
  split
  · have above : (numerator / denominator + 1) * denominator =
        numerator / denominator * denominator + denominator :=
      Nat.succ_mul _ _
    omega
  · omega

theorem nearestEven_mono {first second : Nat} (le : first ≤ second)
    (denominator : Nat) :
    nearestEven first denominator ≤ nearestEven second denominator := by
  have quotients : first / denominator ≤ second / denominator :=
    Nat.div_le_div_right le
  rcases Nat.lt_or_eq_of_le quotients with less | same
  · calc nearestEven first denominator
        ≤ first / denominator + 1 := nearestEven_le first denominator
      _ ≤ second / denominator := less
      _ ≤ nearestEven second denominator :=
        div_le_nearestEven second denominator
  · have first_eq := Nat.div_add_mod first denominator
    have second_eq := Nat.div_add_mod second denominator
    rw [same] at first_eq
    simp only [nearestEven, same]
    split <;> split <;> omega

/-- The distance between neighbouring numbers of 53 bits from the leading bit
of a natural number on. -/
def spacing (number : Nat) : Nat := Nat.pow 2 (number.log2 - 52)

/-- The nearest natural number that 53 bits can hold. -/
def nearestNat (number : Nat) : Nat :=
  nearestEven number (spacing number) * spacing number

theorem spacing_pos (number : Nat) : 0 < spacing number := Nat.two_pow_pos _

/-- Rounding moves a number by half the distance between neighbours at most. -/
theorem nearestNat_near (number : Nat) :
    2 * ((number : Int) - nearestNat number).natAbs ≤ spacing number :=
  nearestEven_near (spacing_pos number) number

/-- Above 52 bits the leading bit is that many places over the spacing. -/
theorem pow_log2_eq {number : Nat} (wide : 52 ≤ number.log2) :
    Nat.pow 2 number.log2 = 0x10000000000000 * spacing number := by
  have split_exponent : number.log2 = 52 + (number.log2 - 52) := by omega
  calc Nat.pow 2 number.log2
      = 2 ^ (52 + (number.log2 - 52)) := congrArg (Nat.pow 2) split_exponent
    _ = 2 ^ 52 * 2 ^ (number.log2 - 52) := Nat.pow_add ..
    _ = 0x10000000000000 * spacing number := rfl

/-- Rounding leaves a significand of 53 bits, or carries it into one more. -/
theorem nearestEven_spacing_bounds {number : Nat} (positive : number ≠ 0)
    (wide : 52 ≤ number.log2) :
    0x10000000000000 ≤ nearestEven number (spacing number) ∧
      nearestEven number (spacing number) ≤ 0x20000000000000 := by
  have least : Nat.pow 2 number.log2 ≤ number := Nat.log2_self_le positive
  have greatest : number < Nat.pow 2 number.log2 * 2 := Nat.lt_log2_self
  rw [pow_log2_eq wide] at least greatest
  constructor
  · exact ((Nat.le_div_iff_mul_le (spacing_pos number)).mpr least).trans
      (div_le_nearestEven _ _)
  · have below : number / spacing number < 0x20000000000000 :=
      (Nat.div_lt_iff_lt_mul (spacing_pos number)).mpr (by omega)
    exact (nearestEven_le _ _).trans below

theorem nearestNat_of_log2_le {number : Nat} (narrow : number.log2 ≤ 52) :
    nearestNat number = number := by
  have unit : spacing number = 1 := by
    rw [spacing, Nat.sub_eq_zero_of_le narrow]
  rw [nearestNat, unit, nearestEven_one, Nat.mul_one]

/-- A number is rounded to one between the powers of two around it. -/
theorem nearestNat_bounds {number : Nat} (positive : number ≠ 0) :
    Nat.pow 2 number.log2 ≤ nearestNat number ∧
      nearestNat number ≤ Nat.pow 2 number.log2 * 2 := by
  rcases Nat.lt_or_ge number.log2 52 with narrow | wide
  · rw [nearestNat_of_log2_le (Nat.le_of_lt narrow)]
    exact ⟨Nat.log2_self_le positive, Nat.le_of_lt Nat.lt_log2_self⟩
  · rcases nearestEven_spacing_bounds positive wide with ⟨least, greatest⟩
    rw [pow_log2_eq wide, nearestNat, Nat.mul_right_comm]
    exact ⟨Nat.mul_le_mul_right _ least, Nat.mul_le_mul_right _ greatest⟩

theorem nearestNat_pos {number : Nat} (positive : number ≠ 0) :
    0 < nearestNat number :=
  Nat.lt_of_lt_of_le (Nat.two_pow_pos _) (nearestNat_bounds positive).1

/-- Rounding keeps the order of natural numbers. -/
theorem nearestNat_mono {first second : Nat} (le : first ≤ second) :
    nearestNat first ≤ nearestNat second := by
  by_cases zero : first = 0
  · subst zero
    exact Nat.zero_le _
  · have positive : second ≠ 0 := by omega
    have order : first.log2 ≤ second.log2 :=
      (Nat.le_log2 positive).mpr ((Nat.log2_self_le zero).trans le)
    rcases Nat.lt_or_eq_of_le order with less | same
    · -- A power of two lies between the two results.
      calc nearestNat first
          ≤ Nat.pow 2 (first.log2 + 1) := (nearestNat_bounds zero).2
        _ ≤ Nat.pow 2 second.log2 := Nat.pow_le_pow_right (by decide) less
        _ ≤ nearestNat second := (nearestNat_bounds positive).1
    · have unit : spacing first = spacing second := by
        rw [spacing, spacing, same]
      rw [nearestNat, nearestNat, unit]
      exact Nat.mul_le_mul_right _ (nearestEven_mono le _)

/-- Numbers up to `2 ^ 53` are not changed by rounding. -/
theorem nearestNat_of_le {number : Nat} (small : number ≤ 0x20000000000000) :
    nearestNat number = number := by
  rcases Nat.lt_or_eq_of_le small with less | rfl
  · by_cases zero : number = 0
    · subst zero
      decide
    · have narrow : number.log2 < 53 := (Nat.log2_lt zero).mpr less
      exact nearestNat_of_log2_le (by omega)
  · decide +kernel

/-! ## Nearest integers -/

/-- The nearest integer that 53 bits and a sign can hold. -/
def nearestInt (value : Int) : Int :=
  if value < 0 then -(nearestNat value.natAbs : Int)
  else nearestNat value.natAbs

/-- The nearest integer is a multiple of the distance between neighbours, at
most half of it away. -/
theorem nearestInt_near (value : Int) :
    (spacing value.natAbs : Int) ∣ nearestInt value ∧
      2 * (value - nearestInt value).natAbs ≤ spacing value.natAbs := by
  have near := nearestNat_near value.natAbs
  have multiple : (spacing value.natAbs : Int) ∣ nearestNat value.natAbs :=
    Int.natCast_dvd_natCast.mpr (Nat.dvd_mul_left _ _)
  unfold nearestInt
  split
  · exact ⟨Int.dvd_neg.mpr multiple, by omega⟩
  · exact ⟨multiple, by omega⟩

/-- Rounding keeps the order of integers. -/
theorem nearestInt_mono {first second : Int} (le : first ≤ second) :
    nearestInt first ≤ nearestInt second := by
  unfold nearestInt
  split
  · split
    · -- Below zero the greater integer is the lesser magnitude.
      have magnitudes : nearestNat second.natAbs ≤ nearestNat first.natAbs :=
        nearestNat_mono (by omega)
      omega
    · omega
  · have magnitudes : nearestNat first.natAbs ≤ nearestNat second.natAbs :=
      nearestNat_mono (by omega)
    rw [if_neg (by omega)]
    omega

/-- Rounding tells integers apart like their own order does exactly if it does
not make different ones equal. -/
theorem compare_nearestInt_iff (first second : Int) :
    compare (nearestInt first) (nearestInt second) = compare first second ↔
      first = second ∨ nearestInt first ≠ nearestInt second := by
  rcases lt_trichotomy first second with less | rfl | greater
  · have ordered := nearestInt_mono (Int.le_of_lt less)
    rw [Std.compare_eq_lt.mpr less, Std.compare_eq_lt]
    omega
  · simp
  · have ordered := nearestInt_mono (Int.le_of_lt greater)
    rw [Std.compare_eq_gt.mpr greater, Std.compare_eq_gt]
    omega

/-- Integers of at most `2 ^ 53`, whatever their sign, are not changed by
rounding. -/
theorem nearestInt_of_natAbs_le {value : Int}
    (small : value.natAbs ≤ 0x20000000000000) : nearestInt value = value := by
  rw [nearestInt, nearestNat_of_le small]
  split <;> omega

/-! ## Numbers nearest to integers -/

/-- The 53 leading bits of a natural number: a short one is moved up to the
leading place, a long one rounded. -/
def leadingBits (number : Nat) : Nat :=
  if number.log2 < 52 then number * Nat.pow 2 (52 - number.log2)
  else nearestEven number (spacing number)

theorem pow_log2_mul {number : Nat} (narrow : number.log2 < 52) :
    Nat.pow 2 number.log2 * Nat.pow 2 (52 - number.log2) =
      0x10000000000000 := by
  have places : number.log2 + (52 - number.log2) = 52 := by omega
  calc Nat.pow 2 number.log2 * Nat.pow 2 (52 - number.log2)
      = 2 ^ (number.log2 + (52 - number.log2)) := (Nat.pow_add ..).symm
    _ = 2 ^ 52 := congrArg (Nat.pow 2) places

theorem leadingBits_bounds {number : Nat} (positive : number ≠ 0) :
    0x10000000000000 ≤ leadingBits number ∧
      leadingBits number ≤ 0x20000000000000 := by
  unfold leadingBits
  split
  · next narrow =>
    have shift := pow_log2_mul narrow
    have least : Nat.pow 2 number.log2 ≤ number := Nat.log2_self_le positive
    have greatest : number ≤ Nat.pow 2 number.log2 * 2 :=
      Nat.le_of_lt Nat.lt_log2_self
    have fromBelow :=
      Nat.mul_le_mul_right (Nat.pow 2 (52 - number.log2)) least
    have fromAbove :=
      Nat.mul_le_mul_right (Nat.pow 2 (52 - number.log2)) greatest
    rw [shift] at fromBelow
    rw [Nat.mul_right_comm, shift] at fromAbove
    exact ⟨fromBelow, fromAbove⟩
  · next wide => exact nearestEven_spacing_bounds positive (by omega)

/-- The leading bits stand for the nearest number at their place. -/
theorem leadingBits_mul (number : Nat) :
    leadingBits number * Nat.pow 2 number.log2 =
      nearestNat number * 0x10000000000000 := by
  unfold leadingBits
  split
  · next narrow =>
    rw [nearestNat_of_log2_le (Nat.le_of_lt narrow), Nat.mul_assoc,
      Nat.mul_comm (Nat.pow 2 (52 - number.log2)), pow_log2_mul narrow]
  · next wide =>
    rw [pow_log2_eq (by omega), nearestNat, Nat.mul_assoc,
      Nat.mul_comm 0x10000000000000]

theorem scaled_leadingBits {number : Nat} (positive : number ≠ 0)
    (bias : Nat) :
    scaled ((number.log2 + bias) * 0x10000000000000 + leadingBits number) =
      nearestNat number *
        scaled (bias * 0x10000000000000 + 0x10000000000000) := by
  rcases leadingBits_bounds positive with ⟨full, limit⟩
  rw [scaled_of_significand full limit,
    scaled_of_significand (Nat.le_refl _) (by decide)]
  calc leadingBits number * 2 ^ (number.log2 + bias)
      = leadingBits number * Nat.pow 2 number.log2 * Nat.pow 2 bias := by
        rw [Nat.pow_add, ← Nat.mul_assoc]
        rfl
    _ = nearestNat number * (0x10000000000000 * Nat.pow 2 bias) := by
        rw [leadingBits_mul, Nat.mul_assoc]

theorem ofRatio_one {number : Nat} (positive : number ≠ 0) (negative : Bool) :
    ofRatio negative number 1 =
      ofMagnitude negative
        (min ((number.log2 + 1022) * 0x10000000000000 + leadingBits number)
          infiniteMagnitude) := by
  have scale : max ((number.log2 : Int) - 52) (-1074) = number.log2 - 52 := by
    omega
  have places : ((number.log2 : Int) - 52 + 1074).toNat =
      number.log2 + 1022 := by omega
  have up : (-((number.log2 : Int) - 52)).toNat = 52 - number.log2 := by omega
  have down : ((number.log2 : Int) - 52).toNat = number.log2 - 52 := by omega
  have wide : (0 : Int) ≤ number.log2 - 52 ↔ ¬ number.log2 < 52 := by omega
  simp only [ofRatio, leadingBits, positive, leadingExponent_natural positive,
    scale, places, up, down, wide, nearestEven_one, Nat.one_mul, if_false,
    ite_not, spacing]

/-- The size of the number one. -/
def sizeOfOne : Nat := scaled 0x3FF0000000000000

theorem sizeOfOne_pos : 0 < sizeOfOne :=
  Nat.lt_of_le_of_lt (Nat.zero_le (scaled 0)) (strictMono_scaled (by decide))

/-- The number nearest to an integer has the size of the nearest integer. -/
theorem exists_ofInt_eq {value : Int} (bounded : value.natAbs.log2 ≤ 1023) :
    ∃ magnitude ≤ infiniteMagnitude,
      ofInt value = ofMagnitude (decide (value < 0)) magnitude ∧
        scaled magnitude = nearestNat value.natAbs * sizeOfOne := by
  by_cases zero : value = 0
  · subst zero
    exact ⟨0, Nat.zero_le _, rfl, by decide +kernel⟩
  · have positive : value.natAbs ≠ 0 := Int.natAbs_ne_zero.mpr zero
    have limit := (leadingBits_bounds positive).2
    have finite : (value.natAbs.log2 + 1022) * 0x10000000000000 +
        leadingBits value.natAbs ≤ infiniteMagnitude := by
      have bound : infiniteMagnitude = 0x7FF0000000000000 := rfl
      omega
    have nearest := ofRatio_one positive (decide (value < 0))
    rw [Nat.min_eq_left finite] at nearest
    exact ⟨_, finite, nearest, scaled_leadingBits positive 1022⟩

/-- Numbers nearest to integers stand in the order of the nearest integers. -/
theorem rank_ofInt_lt_iff {first second : Int}
    (firstBounded : first.natAbs.log2 ≤ 1023)
    (secondBounded : second.natAbs.log2 ≤ 1023) :
    (ofInt first).rank < (ofInt second).rank ↔
      nearestInt first < nearestInt second := by
  rcases exists_ofInt_eq firstBounded with ⟨low, lowFinite, firstEq, lowSize⟩
  rcases exists_ofInt_eq secondBounded with
    ⟨high, highFinite, secondEq, highSize⟩
  have order : low < high ↔
      nearestNat first.natAbs < nearestNat second.natAbs := by
    rw [← strictMono_scaled.lt_iff_lt, lowSize, highSize,
      Nat.mul_lt_mul_right sizeOfOne_pos]
  have turned : high < low ↔
      nearestNat second.natAbs < nearestNat first.natAbs := by
    rw [← strictMono_scaled.lt_iff_lt, lowSize, highSize,
      Nat.mul_lt_mul_right sizeOfOne_pos]
  have below {value : Int} (negative : value < 0) :
      0 < nearestNat value.natAbs := nearestNat_pos (by omega)
  rw [firstEq, secondEq]
  simp only [rank, negative_ofMagnitude lowFinite,
    negative_ofMagnitude highFinite, magnitude_ofMagnitude lowFinite,
    magnitude_ofMagnitude highFinite, nearestInt, decide_eq_true_eq]
  split
  · next firstNegative =>
    have firstPositive := below firstNegative
    split <;> omega
  · split
    · next secondNegative =>
      have secondPositive := below secondNegative
      omega
    · omega

/-- Numbers nearest to integers compare like the nearest integers. -/
theorem totalCompare_ofInt {first second : Int}
    (firstBounded : first.natAbs.log2 ≤ 1023)
    (secondBounded : second.natAbs.log2 ≤ 1023) :
    (ofInt first).totalCompare (ofInt second) =
      compare (nearestInt first) (nearestInt second) := by
  have upward := rank_ofInt_lt_iff firstBounded secondBounded
  have downward := rank_ofInt_lt_iff secondBounded firstBounded
  rw [totalCompare]
  rcases lt_trichotomy (nearestInt first) (nearestInt second) with
    less | same | greater
  · rw [Std.compare_eq_lt.mpr less, Std.compare_eq_lt.mpr (upward.mpr less)]
  · have level : (ofInt first).rank = (ofInt second).rank := by omega
    rw [level, same]
    simp
  · rw [Std.compare_eq_gt.mpr greater,
      Std.compare_eq_gt.mpr (downward.mpr greater)]

end DocQuery.Binary64
