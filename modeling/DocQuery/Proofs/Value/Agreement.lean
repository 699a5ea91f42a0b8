import DocQuery.Proofs.Value.WellFormed
import DocQuery.Value.Equality
import Mathlib.Data.List.Perm.Subperm

/-!
# Symmetry of agreement

Two documents are equal when they have as many entries and every entry of the
first has an equal value under its name in the second.  That is a condition on
the first document only, and it turns around because the names of a
well-formed document are distinct: a list of distinct names that lies within
another one of the same length has all of its members.

Agreement is not reflexive, for nothing agrees with a NaN; but what agrees with
anything at all agrees with itself.
-/

namespace DocQuery

theorem Binary64.equals_symm {left right : Binary64}
    (equal : left.equals right = true) : right.equals left = true := by
  simp only [Binary64.equals, Bool.and_eq_true, beq_iff_eq] at equal ⊢
  rcases equal with ⟨⟨leftNumber, rightNumber⟩, magnitudes⟩
  exact ⟨⟨rightNumber, leftNumber⟩, magnitudes.symm⟩

namespace Value

theorem equalsWithin_iff {entries : List (String × Value)}
    {other : Document} :
    equalsWithin entries other = true ↔
      ∀ entry ∈ entries, ∃ found,
        other.get? entry.1 = some found ∧ entry.2.equals found = true := by
  induction entries with
  | nil => simp [equalsWithin]
  | cons entry rest ih =>
      rcases entry with ⟨name, value⟩
      cases found : other.get? name <;> simp [equalsWithin, found, ih]

/-- Every entry of a list has, under its name in a document, a value that
equals the value of the entry. -/
def MetWithin (entries : List (String × Value)) (other : Document) : Prop :=
  ∀ entry ∈ entries, ∃ found,
    other.get? entry.1 = some found ∧ found.equals entry.2 = true

/-- Of two well-formed documents with as many entries, the second lies within
the first once its values meet all entries of the first. -/
theorem equalsWithin_of_metWithin {left right : Document}
    (leftProper : left.wellFormed = true)
    (rightProper : right.wellFormed = true)
    (sameLength : left.length = right.length)
    (met : MetWithin left right) : equalsWithin right left = true := by
  have leftDistinct := (Document.wellFormed_iff.mp leftProper).1
  have rightDistinct := (Document.wellFormed_iff.mp rightProper).1
  have subset : left.keys ⊆ right.keys := by
    intro name member
    rcases List.mem_map.mp member with ⟨entry, inLeft, rfl⟩
    rcases met entry inLeft with ⟨found, inRight, -⟩
    exact List.mem_map.mpr
      ⟨(entry.1, found), Document.mem_of_get? inRight, rfl⟩
  have permuted : left.keys.Perm right.keys :=
    (List.subperm_of_subset leftDistinct subset).perm_of_length_le
      (by simp [Document.keys, sameLength])
  rw [equalsWithin_iff]
  rintro ⟨name, value⟩ inRight
  have named : name ∈ left.keys :=
    permuted.mem_iff.mpr (List.mem_map.mpr ⟨_, inRight, rfl⟩)
  rcases List.mem_map.mp named with ⟨⟨known, other⟩, inLeft, rfl⟩
  rcases met _ inLeft with ⟨found, foundAt, equal⟩
  have foundValue : found = value := by
    rw [Document.get?_of_mem rightDistinct inRight] at foundAt
    exact (Option.some.inj foundAt).symm
  subst foundValue
  exact ⟨other, Document.get?_of_mem leftDistinct inLeft, equal⟩

/-! ## Equality turns around -/

-- The recursion is that of `equals`, on the first value; its third function
-- looks values up in the second document, so it only says that the values
-- there meet the entries, and `equalsWithin_of_metWithin` does the counting.
mutual

theorem equals_symm (left right : Value)
    (leftProper : left.wellFormed = true)
    (rightProper : right.wellFormed = true) :
    left.equals right = true → right.equals left = true := by
  fun_cases equals left right
  case case8 => exact Binary64.equals_symm
  case case13 text scope other otherScope =>
    intro equal
    simp only [Bool.and_eq_true, beq_iff_eq] at equal
    rcases equal with ⟨⟨sameText, sameLength⟩, within⟩
    have met := metWithin_of_equalsWithin scope otherScope
      (Document.wellFormed_iff.mp leftProper).2 rightProper within
    have turned :=
      equalsWithin_of_metWithin leftProper rightProper sameLength met
    simp [equals, sameText, sameLength, turned]
  case case20 items others =>
    intro equal
    exact equalsEach_symm items others leftProper rightProper equal
  case case21 entries others =>
    intro equal
    simp only [Bool.and_eq_true, beq_iff_eq] at equal
    rcases equal with ⟨sameLength, within⟩
    have met := metWithin_of_equalsWithin entries others
      (Document.wellFormed_iff.mp leftProper).2 rightProper within
    have turned :=
      equalsWithin_of_metWithin leftProper rightProper sameLength met
    simp [equals, sameLength, turned]
  case case22 => simp
  -- Values of the remaining kinds are compared by `==` on their parts.
  all_goals
    simp only [equals, Bool.and_eq_true, beq_iff_eq]
    grind
termination_by sizeOf left

theorem equalsEach_symm (lefts rights : List Value)
    (leftProper : itemsWellFormed lefts = true)
    (rightProper : itemsWellFormed rights = true) :
    equalsEach lefts rights = true → equalsEach rights lefts = true := by
  fun_cases equalsEach lefts rights
  case case1 => exact id
  case case2 left lefts right rights =>
    intro equal
    simp only [Bool.and_eq_true] at equal
    simp only [itemsWellFormed, Bool.and_eq_true] at leftProper rightProper
    have first := equals_symm left right leftProper.1 rightProper.1 equal.1
    have others :=
      equalsEach_symm lefts rights leftProper.2 rightProper.2 equal.2
    simp [equalsEach, first, others]
  case case3 => simp
termination_by sizeOf lefts

theorem metWithin_of_equalsWithin (entries : List (String × Value))
    (other : Document)
    (leftProper : ∀ entry ∈ entries, entry.2.wellFormed = true)
    (rightProper : other.wellFormed = true)
    (within : equalsWithin entries other = true) :
    MetWithin entries other := by
  match entries with
  | [] => simp [MetWithin]
  | (name, value) :: rest =>
      rcases equalsWithin_iff.mp within (name, value) List.mem_cons_self with
        ⟨found, foundAt, equal⟩
      have within_rest : equalsWithin rest other = true := by
        simp only [equalsWithin, Bool.and_eq_true] at within
        exact within.2
      have met := metWithin_of_equalsWithin rest other
        (fun entry member => leftProper entry (List.mem_cons_of_mem _ member))
        rightProper within_rest
      have valueProper := leftProper (name, value) List.mem_cons_self
      have foundProper := Document.wellFormed_of_get? rightProper foundAt
      have turned := equals_symm value found valueProper foundProper equal
      intro entry member
      rcases List.mem_cons.mp member with rfl | later
      · exact ⟨found, foundAt, turned⟩
      · exact met entry later
termination_by sizeOf entries

end

/-! ## What equals something equals itself -/

-- What equals a value meets every part of it, so it takes part of the value for
-- the value itself.
mutual

/-- What equals some value equals itself. -/
theorem equals_self_of_equals {value other : Value}
    (proper : value.wellFormed = true) (equal : value.equals other = true) :
    value.equals value = true := by
  revert equal
  fun_cases equals value other
  case case8 left right =>
    intro equal
    simp only [Binary64.equals, Bool.and_eq_true] at equal
    simp [equals, Binary64.equals, equal.1.1]
  case case13 text scope other otherScope =>
    intro equal
    simp only [Bool.and_eq_true] at equal
    have proper : Document.wellFormed scope = true := proper
    simp [equals, equalsWithin_self_of_equalsWithin proper equal.2]
  case case20 items others =>
    intro equal
    simpa [equals] using equalsEach_self_of_equalsEach proper equal
  case case21 entries others =>
    intro equal
    simp only [Bool.and_eq_true] at equal
    simp [equals, equalsWithin_self_of_equalsWithin proper equal.2]
  case case22 => simp
  all_goals simp [equals]
termination_by sizeOf value

theorem equalsEach_self_of_equalsEach {items others : List Value}
    (proper : itemsWellFormed items = true)
    (equal : equalsEach items others = true) :
    equalsEach items items = true := by
  revert equal
  fun_cases equalsEach items others
  case case1 => simp [equalsEach]
  case case2 item rest other others =>
    intro equal
    simp only [Bool.and_eq_true] at equal
    simp only [itemsWellFormed, Bool.and_eq_true] at proper
    simp [equalsEach, equals_self_of_equals proper.1 equal.1,
      equalsEach_self_of_equalsEach proper.2 equal.2]
  case case3 => simp
termination_by sizeOf items

theorem equalsWithin_self_of_equalsWithin {entries other : Document}
    (proper : entries.wellFormed = true)
    (within : equalsWithin entries other = true) :
    equalsWithin entries entries = true := by
  rcases Document.wellFormed_iff.mp proper with ⟨distinct, values⟩
  rw [equalsWithin_iff] at within ⊢
  rintro ⟨name, value⟩ member
  rcases within (name, value) member with ⟨found, -, equal⟩
  exact ⟨value, Document.get?_of_mem distinct member,
    equals_self_of_equals (values _ member) equal⟩
termination_by sizeOf entries
decreasing_by
  have := List.sizeOf_lt_of_mem member
  simp at this
  omega

end

/-! ## Agreement turns around -/

theorem compare_eq_symm_of_isNumber {left right : Value}
    (numbers : (left.isNumber && right.isNumber) = true)
    (same : left.compare right = .eq) : right.compare left = .eq := by
  have turned : (right.isNumber && left.isNumber) = true := by
    rw [Bool.and_comm]
    exact numbers
  simp only [compare, numbers, turned, if_true, compareNumbers,
    Binary64.totalCompare, Std.compare_eq_iff_eq] at same ⊢
  exact same.symm

theorem agrees_symm {left right : Value}
    (leftProper : left.wellFormed = true)
    (rightProper : right.wellFormed = true)
    (agree : left.agrees right = true) : right.agrees left = true := by
  unfold agrees at agree ⊢
  rw [Bool.and_comm]
  split at agree
  · next numbers =>
      rw [if_pos numbers]
      simp only [beq_iff_eq] at agree ⊢
      exact compare_eq_symm_of_isNumber numbers agree
  · next others =>
      rw [if_neg others]
      exact equals_symm left right leftProper rightProper agree

theorem agrees_self_of_agrees {found value : Value}
    (foundProper : found.wellFormed = true) (proper : value.wellFormed = true)
    (agree : found.agrees value = true) : value.agrees value = true := by
  have turned := agrees_symm foundProper proper agree
  unfold agrees at turned ⊢
  cases number : value.isNumber with
  | true => simp [compare, number, compareNumbers, Binary64.totalCompare]
  | false =>
      simp only [number, Bool.false_and, Bool.false_eq_true, if_false]
        at turned ⊢
      exact equals_self_of_equals proper turned

end Value

end DocQuery
