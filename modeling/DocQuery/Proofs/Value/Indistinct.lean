import DocQuery.Proofs.Value.Agreement
import Mathlib.Data.List.Forall2

/-!
# Values that equality cannot tell apart

Equality does not see everything that is in a value.  The order in which the
entries of a document stand does not count for it, nor does the sign of a zero,
at any depth; and a value that holds a NaN anywhere is not equal to any value,
itself included.  These are all the differences between equality and identity.
-/

namespace DocQuery

/-- Equal numbers are the same one, which is no NaN, or two zeros. -/
theorem Binary64.equals_iff {left right : Binary64} :
    left.equals right = true ↔
      left.isNaN = false ∧
        (left = right ∨ left.isZero = true ∧ right.isZero = true) := by
  constructor
  · intro equal
    simp only [equals, Bool.and_eq_true, beq_iff_eq, Bool.not_eq_true']
      at equal
    rcases equal with ⟨⟨number, -⟩, same⟩
    refine ⟨number, ?_⟩
    by_cases sign : left.negative = right.negative
    · have magnitudes : left.magnitude = right.magnitude := by
        simp only [signedMagnitude, sign] at same
        split at same <;> omega
      refine Or.inl ?_
      rw [← ofMagnitude_negative_magnitude left, sign, magnitudes,
        ofMagnitude_negative_magnitude]
    · -- A number and the negative of another are equal only at zero.
      have zeros : left.magnitude = 0 ∧ right.magnitude = 0 := by
        grind [signedMagnitude]
      exact Or.inr (by simpa [isZero] using zeros)
  · rintro ⟨number, rfl | ⟨leftZero, rightZero⟩⟩
    · simp [equals, number]
    · simp only [isZero, beq_iff_eq] at leftZero rightZero
      simp [equals, isNaN, signedMagnitude, leftZero, rightZero]

namespace Value

/-- A kind of value that is compared as a whole. -/
def isPlain : Value → Bool
  | .double _ | .scopedCode _ _ | .array _ | .document _ => false
  | _ => true

/-- Two values that differ at most in the order of entries and the signs of
zeros, and hold no NaN. -/
inductive Indistinct : Value → Value → Prop
  | plain {value : Value} (plain : value.isPlain = true) :
      Indistinct value value
  | double {left right : Binary64} (number : left.isNaN = false)
      (same : left = right ∨ left.isZero = true ∧ right.isZero = true) :
      Indistinct (.double left) (.double right)
  | scopedCode {text : String} {scope others : Document}
      (names : scope.keys.Perm others.keys)
      (each : ∀ {name value other}, scope.get? name = some value →
        others.get? name = some other → Indistinct value other) :
      Indistinct (.scopedCode text scope) (.scopedCode text others)
  | array {items others : List Value}
      (each : List.Forall₂ Indistinct items others) :
      Indistinct (.array items) (.array others)
  | document {entries others : Document}
      (names : entries.keys.Perm others.keys)
      (each : ∀ {name value other}, entries.get? name = some value →
        others.get? name = some other → Indistinct value other) :
      Indistinct (.document entries) (.document others)

/-- A NaN stands somewhere in a value. -/
inductive HoldsNaN : Value → Prop
  | double {number : Binary64} (isNaN : number.isNaN = true) :
      HoldsNaN (.double number)
  | scopedCode {text : String} {scope : Document} {entry : String × Value}
      (member : entry ∈ scope) (inside : HoldsNaN entry.2) :
      HoldsNaN (.scopedCode text scope)
  | array {items : List Value} {item : Value} (member : item ∈ items)
      (inside : HoldsNaN item) : HoldsNaN (.array items)
  | document {entries : Document} {entry : String × Value}
      (member : entry ∈ entries) (inside : HoldsNaN entry.2) :
      HoldsNaN (.document entries)

end Value

/-- Documents are equal if they have the same names and equal values under
them. -/
theorem Document.equals_iff {document other : Document}
    (distinct : document.Distinct) :
    document.equals other = true ↔
      document.keys.Perm other.keys ∧
        ∀ {name value found}, document.get? name = some value →
          other.get? name = some found → value.equals found = true := by
  simp only [equals, Bool.and_eq_true, beq_iff_eq, Value.equalsWithin_iff]
  constructor
  · rintro ⟨sameLength, within⟩
    constructor
    · have subset : document.keys ⊆ other.keys := by
        intro name member
        rcases List.mem_map.mp member with ⟨entry, inside, rfl⟩
        rcases within entry inside with ⟨found, there, -⟩
        exact List.mem_map.mpr ⟨_, mem_of_get? there, rfl⟩
      exact (List.subperm_of_subset distinct subset).perm_of_length_le
        (by simp [keys, sameLength])
    · intro name value found here there
      rcases within _ (mem_of_get? here) with ⟨same, thereToo, equal⟩
      rw [there] at thereToo
      rwa [Option.some.inj thereToo]
  · rintro ⟨names, each⟩
    constructor
    · simpa [keys] using names.length_eq
    · rintro ⟨name, value⟩ member
      have here := get?_of_mem distinct member
      have named : name ∈ other.keys :=
        names.mem_iff.mp (List.mem_map.mpr ⟨_, member, rfl⟩)
      cases there : other.get? name with
      | none => exact absurd named (get?_eq_none_iff.mp there)
      | some found => exact ⟨found, rfl, each here there⟩

namespace Value

variable {value left right : Value}

/-! ## Equality, kind by kind -/

theorem equals_iff_eq_of_isPlain (plain : left.isPlain = true) :
    left.equals right = true ↔ left = right := by
  fun_cases equals left right
  case case8 | case13 | case20 | case21 => cases plain
  case case22 mismatched =>
    refine iff_of_false Bool.false_ne_true ?_
    rintro rfl
    cases left <;> grind [isPlain]
  all_goals simp

theorem equals_double_iff {number : Binary64} :
    (Value.double number).equals right = true ↔
      ∃ other, right = .double other ∧ number.equals other = true := by
  cases right <;> simp [equals]

theorem equals_scopedCode_iff {text : String} {scope : Document} :
    (Value.scopedCode text scope).equals right = true ↔
      ∃ others, right = .scopedCode text others ∧
        Document.equals scope others = true := by
  cases right <;> simp [equals, Document.equals]
  grind

theorem equals_array_iff {items : List Value} :
    (Value.array items).equals right = true ↔
      ∃ others, right = .array others ∧
        List.Forall₂ (fun item other => item.equals other = true) items
          others := by
  have each (others : List Value) : equalsEach items others = true ↔
      List.Forall₂ (fun item other => item.equals other = true) items
        others := by
    induction items generalizing others with
    | nil => cases others <;> simp [equalsEach]
    | cons item rest ih => cases others <;> simp [equalsEach, ih]
  cases right <;> simp [equals, each]

theorem equals_document_iff {entries : Document} :
    (Value.document entries).equals right = true ↔
      ∃ others, right = .document others ∧
        Document.equals entries others = true := by
  cases right <;> simp [equals, Document.equals]

/-! ## Indistinctness, kind by kind -/

theorem indistinct_iff_eq_of_isPlain (plain : left.isPlain = true) :
    Indistinct left right ↔ left = right := by
  constructor
  · intro indistinct
    cases indistinct <;> first | rfl | cases plain
  · rintro rfl
    exact .plain plain

theorem indistinct_double_iff {number : Binary64} :
    Indistinct (.double number) right ↔
      ∃ other, right = .double other ∧ number.equals other = true := by
  constructor
  · intro indistinct
    cases indistinct with
    | plain isPlain => cases isPlain
    | double number same =>
        exact ⟨_, rfl, Binary64.equals_iff.mpr ⟨number, same⟩⟩
  · rintro ⟨other, rfl, equal⟩
    rcases Binary64.equals_iff.mp equal with ⟨number, same⟩
    exact .double number same

/-- Two documents have the same names and indistinct values under them. -/
def IndistinctWithin (entries others : Document) : Prop :=
  entries.keys.Perm others.keys ∧
    ∀ {name value other}, entries.get? name = some value →
      others.get? name = some other → Indistinct value other

theorem indistinct_scopedCode_iff {text : String} {scope : Document} :
    Indistinct (.scopedCode text scope) right ↔
      ∃ others, right = .scopedCode text others ∧
        IndistinctWithin scope others := by
  constructor
  · intro indistinct
    cases indistinct with
    | plain isPlain => cases isPlain
    | scopedCode names each => exact ⟨_, rfl, names, each⟩
  · rintro ⟨others, rfl, names, each⟩
    exact .scopedCode names each

theorem indistinct_array_iff {items : List Value} :
    Indistinct (.array items) right ↔
      ∃ others, right = .array others ∧
        List.Forall₂ Indistinct items others := by
  constructor
  · intro indistinct
    cases indistinct with
    | plain isPlain => cases isPlain
    | array each => exact ⟨_, rfl, each⟩
  · rintro ⟨others, rfl, each⟩
    exact .array each

theorem indistinct_document_iff {entries : Document} :
    Indistinct (.document entries) right ↔
      ∃ others, right = .document others ∧
        IndistinctWithin entries others := by
  constructor
  · intro indistinct
    cases indistinct with
    | plain isPlain => cases isPlain
    | document names each => exact ⟨_, rfl, names, each⟩
  · rintro ⟨others, rfl, names, each⟩
    exact .document names each

/-! ## Equality is indistinctness -/

/-- Equality of a value is indistinctness from it. -/
def EqualsExactly (value : Value) : Prop :=
  ∀ {other : Value}, other.wellFormed = true →
    (value.equals other = true ↔ Indistinct value other)

/-- What holds of all values in a document holds of the document. -/
theorem equals_iff_indistinctWithin {entries others : Document}
    (proper : entries.wellFormed = true)
    (otherProper : others.wellFormed = true)
    (inside : ∀ entry ∈ entries, EqualsExactly entry.2) :
    Document.equals entries others = true ↔
      IndistinctWithin entries others := by
  rw [Document.equals_iff (Document.wellFormed_iff.mp proper).1]
  refine and_congr_right fun _ => ?_
  constructor
  · intro each name value other here there
    exact (inside _ (Document.mem_of_get? here)
      (Document.wellFormed_of_get? otherProper there)).mp (each here there)
  · intro each name value other here there
    exact (inside _ (Document.mem_of_get? here)
      (Document.wellFormed_of_get? otherProper there)).mpr (each here there)

/-- What holds of all items holds of the array. -/
theorem forall₂_equals_iff {items others : List Value}
    (otherProper : ∀ other ∈ others, other.wellFormed = true)
    (inside : ∀ item ∈ items, EqualsExactly item) :
    List.Forall₂ (fun item other => item.equals other = true) items others ↔
      List.Forall₂ Indistinct items others := by
  rw [List.forall₂_iff_zip, List.forall₂_iff_zip]
  refine and_congr_right fun _ => ?_
  constructor
  · intro each item other member
    rcases List.of_mem_zip member with ⟨here, there⟩
    exact (inside item here (otherProper other there)).mp (each member)
  · intro each item other member
    rcases List.of_mem_zip member with ⟨here, there⟩
    exact (inside item here (otherProper other there)).mpr (each member)

/-- Equality takes two values for the same exactly if they are indistinct. -/
theorem equals_iff_indistinct (value : Value)
    (proper : value.wellFormed = true) : EqualsExactly value := by
  intro other otherProper
  match value with
  | .double number => rw [equals_double_iff, indistinct_double_iff]
  | .scopedCode text scope =>
      have scopeProper : Document.wellFormed scope = true := proper
      have inside : ∀ entry ∈ scope, EqualsExactly entry.2 :=
        fun entry member => equals_iff_indistinct entry.2
          ((Document.wellFormed_iff.mp scopeProper).2 entry member)
      rw [equals_scopedCode_iff, indistinct_scopedCode_iff]
      refine exists_congr fun others => and_congr_right ?_
      rintro rfl
      exact equals_iff_indistinctWithin scopeProper otherProper inside
  | .array items =>
      have inside : ∀ item ∈ items, EqualsExactly item :=
        fun item member => equals_iff_indistinct item
          (wellFormed_array.mp proper item member)
      rw [equals_array_iff, indistinct_array_iff]
      refine exists_congr fun others => and_congr_right ?_
      rintro rfl
      exact forall₂_equals_iff (wellFormed_array.mp otherProper) inside
  | .document entries =>
      have inside : ∀ entry ∈ entries, EqualsExactly entry.2 :=
        fun entry member => equals_iff_indistinct entry.2
          ((Document.wellFormed_iff.mp proper).2 entry member)
      rw [equals_document_iff, indistinct_document_iff]
      refine exists_congr fun others => and_congr_right ?_
      rintro rfl
      exact equals_iff_indistinctWithin proper otherProper inside
  | .null | .undefined | .minKey | .maxKey | .boolean _ | .int32 _ | .int64 _
  | .decimal _ | .string _ | .symbol _ | .code _ | .objectId _ | .dateTime _
  | .timestamp _ _ | .binary _ _ | .regex _ _ | .pointer _ _ =>
      rw [equals_iff_eq_of_isPlain rfl, indistinct_iff_eq_of_isPlain rfl]
termination_by sizeOf value
decreasing_by
  all_goals
    have smaller := List.sizeOf_lt_of_mem member
    grind

/-! ## Indistinctness from itself -/

theorem not_holdsNaN_of_indistinct (proper : value.wellFormed = true)
    (indistinct : Indistinct value value) : ¬ HoldsNaN value := by
  intro holds
  induction holds with
  | double isNaN =>
      rcases indistinct_double_iff.mp indistinct with ⟨_, same, equal⟩
      cases same
      exact Bool.noConfusion
        ((Binary64.equals_iff.mp equal).1.symm.trans isNaN)
  | @scopedCode text scope entry member _ ih =>
      have scopeProper : Document.wellFormed scope = true := proper
      rcases Document.wellFormed_iff.mp scopeProper with ⟨distinct, values⟩
      rcases indistinct_scopedCode_iff.mp indistinct with ⟨_, same, -, each⟩
      cases same
      have found := Document.get?_of_mem distinct member
      exact ih (values entry member) (each found found)
  | array member _ ih =>
      rcases indistinct_array_iff.mp indistinct with ⟨_, same, each⟩
      cases same
      exact ih (wellFormed_array.mp proper _ member)
        (List.forall₂_same.mp each _ member)
  | @document entries entry member _ ih =>
      rcases Document.wellFormed_iff.mp proper with ⟨distinct, values⟩
      rcases indistinct_document_iff.mp indistinct with ⟨_, same, -, each⟩
      cases same
      have found := Document.get?_of_mem distinct member
      exact ih (values entry member) (each found found)

theorem indistinctWithin_self {entries : Document}
    (inside : ∀ entry ∈ entries, Indistinct entry.2 entry.2) :
    IndistinctWithin entries entries := by
  refine ⟨List.Perm.refl _, ?_⟩
  intro name value other here there
  rw [here] at there
  cases there
  exact inside _ (Document.mem_of_get? here)

theorem indistinct_of_not_holdsNaN (value : Value) (free : ¬ HoldsNaN value) :
    Indistinct value value := by
  match value with
  | .double number =>
      have isNumber : number.isNaN = false := by
        rw [← Bool.not_eq_true]
        exact fun isNaN => free (.double isNaN)
      exact .double isNumber (Or.inl rfl)
  | .scopedCode text scope =>
      have inside : ∀ entry ∈ scope, Indistinct entry.2 entry.2 :=
        fun entry member => indistinct_of_not_holdsNaN entry.2
          fun holds => free (.scopedCode member holds)
      exact indistinct_scopedCode_iff.mpr
        ⟨scope, rfl, indistinctWithin_self inside⟩
  | .array items =>
      have inside : ∀ item ∈ items, Indistinct item item :=
        fun item member => indistinct_of_not_holdsNaN item
          fun holds => free (.array member holds)
      exact .array (List.forall₂_same.mpr inside)
  | .document entries =>
      have inside : ∀ entry ∈ entries, Indistinct entry.2 entry.2 :=
        fun entry member => indistinct_of_not_holdsNaN entry.2
          fun holds => free (.document member holds)
      exact indistinct_document_iff.mpr
        ⟨entries, rfl, indistinctWithin_self inside⟩
  | .null | .undefined | .minKey | .maxKey | .boolean _ | .int32 _ | .int64 _
  | .decimal _ | .string _ | .symbol _ | .code _ | .objectId _ | .dateTime _
  | .timestamp _ _ | .binary _ _ | .regex _ _ | .pointer _ _ =>
      exact .plain rfl
termination_by sizeOf value
decreasing_by
  all_goals
    have smaller := List.sizeOf_lt_of_mem member
    grind

/-- A value cannot be told apart from itself exactly if it holds no NaN. -/
theorem indistinct_self_iff (proper : value.wellFormed = true) :
    Indistinct value value ↔ ¬ HoldsNaN value :=
  ⟨not_holdsNaN_of_indistinct proper, indistinct_of_not_holdsNaN value⟩

/-- A value agrees with itself unless it holds a NaN and is no number. -/
theorem agrees_self_iff (proper : value.wellFormed = true) :
    value.agrees value = true ↔
      (value.isNumber = true ∨ ¬ HoldsNaN value) := by
  unfold agrees
  cases number : value.isNumber with
  | true => simp [compare, number, compareNumbers, Binary64.totalCompare]
  | false =>
      simpa using (equals_iff_indistinct value proper proper).trans
        (indistinct_self_iff proper)

end Value

end DocQuery
