import DocQuery.Value.Order
import Mathlib.Tactic.Common

/-!
# How far the sort order is an order

Every value has a key: the rank of its kind and, behind it, what is compared
within the kind.  The sort order is the order of the keys, and with it
reflexive, turned around by a swap, and transitive, but for one pair of kinds.
A symbol shares the rank of strings and is compared with them by rank alone,
so it equals every string while strings are compared by their text.

The last theorem says that this is the only way in which transitivity fails:
a symbol between two strings that stand in descending order.
-/

namespace DocQuery.Value

/-! ## Keys -/

/-- What is compared between values of one rank.  Kinds that are compared by
their rank alone have nothing to show. -/
def sortContent : Value → List Int
  | .string text => (text.toList.map Char.toNat).map Int.ofNat
  | .boolean flag => [Int.ofNat flag.toNat]
  | .dateTime milliseconds => [milliseconds.toInt]
  | .objectId id => [Int.ofNat id.bytes.toNat]
  | .timestamp seconds increment =>
    [Int.ofNat seconds.toNat, Int.ofNat increment.toNat]
  | .binary subtype bytes =>
    Int.ofNat bytes.length :: Int.ofNat subtype.toNat ::
      (bytes.map UInt8.toNat).map Int.ofNat
  | value => if value.isNumber then [value.numberOrNaN.rank] else []

/-- The rank of a value and what is compared within the rank. -/
def sortKey (value : Value) : List Int :=
  Int.ofNat value.kindRank :: value.sortContent

/-- One of two values is a string and the other one a symbol. -/
def mixesText : Value → Value → Bool
  | .string _, .symbol _ => true
  | .symbol _, .string _ => true
  | _, _ => false

theorem mixesText_comm (first second : Value) :
    first.mixesText second = second.mixesText first := by
  cases first <;> cases second <;> rfl

theorem compare_ofNat (left right : Nat) :
    Ord.compare (Int.ofNat left) (Int.ofNat right) = Ord.compare left right := by
  rcases Nat.lt_trichotomy left right with less | same | greater
  · rw [Std.compare_eq_lt.mpr less]
    exact Std.compare_eq_lt.mpr (Int.ofNat_lt.mpr less)
  · rw [same]
    simp
  · rw [Std.compare_eq_gt.mpr greater]
    exact Std.compare_eq_gt.mpr (Int.ofNat_lt.mpr greater)

theorem compare_map_ofNat (left right : List Nat) :
    Ord.compare (left.map Int.ofNat) (right.map Int.ofNat) =
      Ord.compare left right := by
  induction left generalizing right with
  | nil => cases right <;> rfl
  | cons first rest ih =>
      cases right with
      | nil => rfl
      | cons second others =>
          simp only [List.map_cons, List.compare_cons_cons, ih, compare_ofNat]

/-- Values of different ranks have keys in the order of their ranks. -/
theorem compare_sortKey_of_kindRank_ne {first second : Value}
    (different : first.kindRank ≠ second.kindRank) :
    Ord.compare first.sortKey second.sortKey =
      Ord.compare first.kindRank second.kindRank := by
  rw [sortKey, sortKey, List.compare_cons_cons, compare_ofNat]
  rcases Nat.lt_or_gt_of_ne different with less | greater
  · rw [Std.compare_eq_lt.mpr less]
    rfl
  · rw [Std.compare_eq_gt.mpr greater]
    rfl

/-- Values of one rank have keys in the order of their content. -/
theorem compare_sortKey_of_kindRank_eq {first second : Value}
    (same : first.kindRank = second.kindRank) :
    Ord.compare first.sortKey second.sortKey =
      Ord.compare first.sortContent second.sortContent := by
  rw [sortKey, sortKey, List.compare_cons_cons, same]
  simp

theorem kindRank_of_isNumber {value : Value} (number : value.isNumber = true) :
    value.kindRank = 3 := by
  cases value <;> first | rfl | exact absurd number Bool.false_ne_true

theorem sortContent_of_isNumber {value : Value}
    (number : value.isNumber = true) :
    value.sortContent = [value.numberOrNaN.rank] := by
  cases value <;> first | rfl | exact absurd number Bool.false_ne_true

/-- The sort order is the order of the keys, except between strings and
symbols, which all count as equal. -/
theorem compare_eq_compare_sortKey {first second : Value}
    (unmixed : first.mixesText second = false) :
    first.compare second = Ord.compare first.sortKey second.sortKey := by
  fun_cases compare first second
  case case1 numbers =>
    rcases Bool.and_eq_true_iff.mp numbers with ⟨firstNumber, secondNumber⟩
    have sameRank : first.kindRank = second.kindRank := by
      rw [kindRank_of_isNumber firstNumber, kindRank_of_isNumber secondNumber]
    rw [compare_sortKey_of_kindRank_eq sameRank,
      sortContent_of_isNumber firstNumber,
      sortContent_of_isNumber secondNumber]
    simp [compareNumbers, Binary64.totalCompare, List.compare_cons_cons]
  case case2 left right _ =>
    rw [compare_sortKey_of_kindRank_eq (by rfl)]
    simp only [sortContent, compare_map_ofNat, compareText]
  case case3 | case4 | case5 =>
    rw [compare_sortKey_of_kindRank_eq (by rfl)]
    simp [sortContent, List.compare_cons_cons, compare_ofNat,
      ObjectId.compare, -Int.ofNat_eq_natCast]
  case case6 =>
    rw [compare_sortKey_of_kindRank_eq (by rfl)]
    simp [sortContent, List.compare_cons_cons, compare_ofNat,
      -Int.ofNat_eq_natCast]
  case case7 =>
    rw [compare_sortKey_of_kindRank_eq (by rfl)]
    simp only [sortContent, List.compare_cons_cons, compare_ofNat,
      compare_map_ofNat, compareBinary]
  case case8 notStrings notFlags notTimes notIds notStamps notBinaries
      notNumbers =>
    by_cases sameRank : first.kindRank = second.kindRank
    · have nothingElse :
          Ord.compare first.sortContent second.sortContent = .eq := by
        cases first <;> cases second <;>
          first
            | rfl
            | exact absurd sameRank (Nat.ne_of_beq_eq_false rfl)
            | exact absurd rfl notNumbers
            | exact (notStrings _ _ rfl rfl).elim
            | exact (notFlags _ _ rfl rfl).elim
            | exact (notTimes _ _ rfl rfl).elim
            | exact (notIds _ _ rfl rfl).elim
            | exact (notStamps _ _ _ _ rfl rfl).elim
            | exact (notBinaries _ _ _ _ rfl rfl).elim
            | exact absurd unmixed.symm Bool.false_ne_true
      rw [compare_sortKey_of_kindRank_eq sameRank, nothingElse, sameRank]
      exact Std.ReflCmp.compare_self
    · exact (compare_sortKey_of_kindRank_ne sameRank).symm

/-! ## The laws of an order -/

theorem mixesText_self (value : Value) : value.mixesText value = false := by
  cases value <;> rfl

theorem compare_of_mixesText {first second : Value}
    (mixed : first.mixesText second = true) : first.compare second = .eq := by
  cases first <;> cases second <;>
    first
      | rfl
      | exact absurd mixed Bool.false_ne_true

theorem kindRank_of_mixesText {first second : Value}
    (mixed : first.mixesText second = true) :
    first.kindRank = 4 ∧ second.kindRank = 4 := by
  cases first <;> cases second <;>
    first
      | exact absurd mixed Bool.false_ne_true
      | exact ⟨rfl, rfl⟩

/-- Strings and symbols have a rank of their own. -/
theorem string_or_symbol_of_kindRank {value : Value}
    (rank : value.kindRank = 4) :
    (∃ text, value = .string text) ∨ ∃ text, value = .symbol text := by
  cases value <;>
    first
      | exact Or.inl ⟨_, rfl⟩
      | exact Or.inr ⟨_, rfl⟩
      | exact absurd rank (Nat.ne_of_beq_eq_false rfl)

theorem compare_self (value : Value) : value.compare value = .eq := by
  rw [compare_eq_compare_sortKey (mixesText_self value)]
  exact Std.ReflCmp.compare_self

theorem compare_swap (first second : Value) :
    second.compare first = (first.compare second).swap := by
  cases mixed : first.mixesText second with
  | true =>
      have turned : second.mixesText first = true := by
        rw [mixesText_comm, mixed]
      rw [compare_of_mixesText mixed, compare_of_mixesText turned]
      rfl
  | false =>
      have turned : second.mixesText first = false := by
        rw [mixesText_comm, mixed]
      rw [compare_eq_compare_sortKey mixed, compare_eq_compare_sortKey turned]
      exact Std.OrientedCmp.eq_swap

/-- Values of different ranks are compared by them. -/
theorem compare_of_kindRank_ne {first second : Value}
    (different : first.kindRank ≠ second.kindRank) :
    first.compare second = Ord.compare first.kindRank second.kindRank := by
  have unmixed : first.mixesText second = false := by
    refine Bool.eq_false_iff.mpr fun mixed => ?_
    have ranks := kindRank_of_mixesText mixed
    exact different (ranks.1.trans ranks.2.symm)
  rw [compare_eq_compare_sortKey unmixed,
    compare_sortKey_of_kindRank_ne different]

theorem kindRank_le_of_compare {first second : Value}
    (notAfter : first.compare second ≠ .gt) :
    first.kindRank ≤ second.kindRank := by
  by_contra above
  apply notAfter
  rw [compare_of_kindRank_ne (by omega)]
  exact Std.compare_eq_gt.mpr (by omega)

/-- A symbol stands between two strings that are in descending order. -/
def SymbolBetween (first second third : Value) : Prop :=
  ∃ left symbol right,
    first = .string left ∧ second = .symbol symbol ∧ third = .string right ∧
      compareText left right = .gt

/-- The sort order leads from a first value over a second to a third one,
unless a symbol stands between two strings. -/
theorem compare_trans_iff {first second third : Value}
    (before : first.compare second ≠ .gt)
    (after : second.compare third ≠ .gt) :
    first.compare third ≠ .gt ↔ ¬ SymbolBetween first second third := by
  constructor
  · rintro notAfter ⟨left, symbol, right, rfl, rfl, rfl, descending⟩
    exact notAfter descending
  · intro unbroken
    have firstRank := kindRank_le_of_compare before
    have lastRank := kindRank_le_of_compare after
    rcases Nat.lt_or_ge first.kindRank third.kindRank with below | level
    · rw [compare_of_kindRank_ne (by omega), Std.compare_eq_lt.mpr below]
      decide
    · have keyed (unmixed : first.mixesText second = false)
          (unmixedAfter : second.mixesText third = false)
          (unmixedAcross : first.mixesText third = false) :
          first.compare third ≠ .gt := by
        rw [compare_eq_compare_sortKey unmixed] at before
        rw [compare_eq_compare_sortKey unmixedAfter] at after
        rw [compare_eq_compare_sortKey unmixedAcross]
        exact Std.TransCmp.le_trans before after
      by_cases text : first.kindRank = 4
      · -- All three are strings or symbols; only strings differ at all.
        have textAfter : second.kindRank = 4 := by omega
        have textLast : third.kindRank = 4 := by omega
        rcases string_or_symbol_of_kindRank text with
          ⟨left, rfl⟩ | ⟨left, rfl⟩
        · rcases string_or_symbol_of_kindRank textLast with
            ⟨right, rfl⟩ | ⟨right, rfl⟩
          · rcases string_or_symbol_of_kindRank textAfter with
              ⟨middle, rfl⟩ | ⟨middle, rfl⟩
            · exact keyed rfl rfl rfl
            · intro descending
              exact unbroken ⟨left, middle, right, rfl, rfl, rfl, descending⟩
          · exact Ordering.noConfusion
        · rcases string_or_symbol_of_kindRank textLast with
            ⟨right, rfl⟩ | ⟨right, rfl⟩
          · exact Ordering.noConfusion
          · exact Ordering.noConfusion
      · have unmixed {left right : Value} (other : left.kindRank ≠ 4) :
            left.mixesText right = false :=
          Bool.eq_false_iff.mpr fun mixed =>
            other (kindRank_of_mixesText mixed).1
        exact keyed (unmixed text) (unmixed (by omega)) (unmixed text)

/-- The sort order is reflexive and turned around by a swap.  It is transitive
except where a symbol stands between two strings, and two values that equal a
third one are equal except where this third one is a symbol and they are
different strings. -/
theorem compare_preorder_iff (first second third : Value) :
    first.compare first = .eq ∧
      second.compare first = (first.compare second).swap ∧
      (first.compare second ≠ .gt → second.compare third ≠ .gt →
        (first.compare third ≠ .gt ↔ ¬ SymbolBetween first second third)) ∧
      (second.compare first = .eq → second.compare third = .eq →
        (first.compare third = .eq ↔
          ¬ SymbolBetween first second third ∧
            ¬ SymbolBetween third second first)) := by
  refine ⟨compare_self first, compare_swap first second, compare_trans_iff, ?_⟩
  intro same sameAfter
  have turned : first.compare second = .eq := by
    rw [compare_swap second first, same]
    rfl
  have turnedAfter : third.compare second = .eq := by
    rw [compare_swap second third, sameAfter]
    rfl
  have onward : first.compare third ≠ .gt ↔
      ¬ SymbolBetween first second third :=
    compare_trans_iff (by simp [turned]) (by simp [sameAfter])
  have backward : third.compare first ≠ .gt ↔
      ¬ SymbolBetween third second first :=
    compare_trans_iff (by simp [turnedAfter]) (by simp [same])
  rw [← onward, ← backward, compare_swap first third]
  cases first.compare third <;> simp

/-- A symbol equals two strings, and the strings differ. -/
theorem compare_preorder_iff_symbol :
    (symbol "x").compare (string "b") = .eq ∧
      (symbol "x").compare (string "a") = .eq ∧
      (string "b").compare (string "a") ≠ .eq ∧
      ¬ (string "b").compare (string "a") ≠ .gt := by
  have between : SymbolBetween (string "b") (symbol "x") (string "a") :=
    ⟨"b", "x", "a", rfl, rfl, rfl, rfl⟩
  rcases compare_preorder_iff (string "b") (symbol "x") (string "a") with
    ⟨-, -, transitive, equal⟩
  refine ⟨rfl, rfl, ?_, ?_⟩
  · exact fun same => ((equal rfl rfl).mp same).1 between
  · exact fun ordered =>
      (transitive (by decide) (by decide)).mp ordered between

end DocQuery.Value
