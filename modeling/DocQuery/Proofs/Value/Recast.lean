import DocQuery.Filter.Distance
import DocQuery.Proofs.Value.Agreement

/-!
# Numbers in other kinds

An integer of 32 bits can be written as one of 64 bits and as a double, both of
the same amount.  Wherever numbers are compared as numbers the kind makes no
difference.  Two readings look at the kind: equality compares what is inside
arrays and documents kind by kind, and as a flag only an integer can be zero.
-/

namespace DocQuery

namespace Value

mutual

/-- A value and the same value with some of its integers of 32 bits, at any
depth, written as integers of 64 bits or as doubles. -/
inductive Recast : Value → Value → Prop
  | same (value : Value) : Recast value value
  | int64 (number : Int32) : Recast (.int32 number) (.int64 number.toInt64)
  | double (number : Int32) :
      Recast (.int32 number) (.double (.ofInt number.toInt))
  | scopedCode {text : String} {scope others : Document}
      (inside : RecastEntries scope others) :
      Recast (.scopedCode text scope) (.scopedCode text others)
  | array {items others : List Value}
      (inside : List.Forall₂ Recast items others) :
      Recast (.array items) (.array others)
  | document {entries others : Document}
      (inside : RecastEntries entries others) :
      Recast (.document entries) (.document others)

/-- Entries of the same names in the same order, and under each name the value
there was or the same one recast. -/
inductive RecastEntries : Document → Document → Prop
  | nil : RecastEntries [] []
  | cons {name : String} {value other : Value} {rest others : Document}
      (here : Recast value other) (later : RecastEntries rest others) :
      RecastEntries ((name, value) :: rest) ((name, other) :: others)

end

variable {value other : Value}

theorem RecastEntries.refl (entries : Document) :
    RecastEntries entries entries := by
  induction entries with
  | nil => exact .nil
  | cons entry rest ih => exact .cons (.same entry.2) ih

/-! ## What is inside -/

/-- A document recast is a document with its entries recast. -/
theorem recast_document_iff {entries : Document} :
    Recast (.document entries) other ↔
      ∃ others, other = .document others ∧ RecastEntries entries others := by
  constructor
  · intro recast
    cases recast with
    | same => exact ⟨entries, rfl, .refl entries⟩
    | document inside => exact ⟨_, rfl, inside⟩
  · rintro ⟨others, rfl, inside⟩
    exact .document inside

/-- An array recast is an array with its items recast. -/
theorem recast_array_iff {items : List Value} :
    Recast (.array items) other ↔
      ∃ others, other = .array others ∧ List.Forall₂ Recast items others := by
  constructor
  · intro recast
    cases recast with
    | same =>
        exact ⟨items, rfl, List.forall₂_same.mpr fun item _ => .same item⟩
    | array inside => exact ⟨_, rfl, inside⟩
  · rintro ⟨others, rfl, inside⟩
    exact .array inside

/-- What is read of the value under a name, of any value as of the one it is
recast to, is read of the value under that name recast. -/
theorem RecastEntries.bind_get? {Target : Type} {entries others : Document}
    (inside : RecastEntries entries others) {reading : Value → Option Target}
    (same : ∀ {value other}, Recast value other →
      reading value = reading other) (name : String) :
    (entries.get? name).bind reading = (others.get? name).bind reading := by
  induction entries generalizing others with
  | nil =>
      cases inside
      rfl
  | cons entry rest ih =>
      cases inside with
      | @cons key _ _ _ _ here later =>
          by_cases found : key = name
          · simp [Document.get?_cons, found, same here]
          · simpa [Document.get?_cons, found] using ih later

/-! ## Readings that do not look at the kind -/

/-- The number is the same. -/
theorem Recast.toBinary64?_eq (recast : Recast value other) :
    value.toBinary64? = other.toBinary64? := by
  cases recast with
  | int64 number => simp only [toBinary64?, Int32.toInt_toInt64]
  | _ => rfl

theorem Recast.isNumber_eq (recast : Recast value other) :
    value.isNumber = other.isNumber := by
  rw [← isSome_toBinary64?, ← isSome_toBinary64?, recast.toBinary64?_eq]

theorem Recast.compareNumbers_eq (recast : Recast value other)
    (found : Value) :
    found.compareNumbers value = found.compareNumbers other := by
  simp only [compareNumbers, numberOrNaN, recast.toBinary64?_eq]

theorem Recast.asString?_eq (recast : Recast value other) :
    value.asString? = other.asString? := by
  cases recast <;> rfl

theorem Recast.isSome_asDocument?_eq (recast : Recast value other) :
    value.asDocument?.isSome = other.asDocument?.isSome := by
  cases recast <;> rfl

theorem Recast.asArray?_eq_none (recast : Recast value other)
    (plain : value.asArray? = none) : other.asArray? = none := by
  cases recast <;> first | exact plain | rfl | cases plain

theorem Recast.compareAlike?_eq (recast : Recast value other)
    (found : Value) :
    found.compareAlike? value = found.compareAlike? other := by
  simp only [compareAlike?, recast.isNumber_eq, recast.compareNumbers_eq]
  congr 1
  cases recast <;> cases found <;> rfl

/-- An array of two numbers is the same point. -/
theorem Recast.ofValue?_eq (recast : Recast value other) :
    Point.ofValue? value = Point.ofValue? other := by
  cases recast with
  | array inside =>
      rcases inside with _ | ⟨first, _ | ⟨second, _ | ⟨third, rest⟩⟩⟩
      · rfl
      · rfl
      · simp only [Point.ofValue?, first.toBinary64?_eq,
          second.toBinary64?_eq]
      · rfl
  | _ => rfl

/-! ## Flags -/

/-- A zero has become a double, which as a flag is never a no. -/
def LosesZero (value other : Value) : Prop :=
  value = .int32 0 ∧ ∃ number, other = .double number

theorem Recast.truthy_eq_iff (recast : Recast value other) :
    value.truthy = other.truthy ↔ ¬ LosesZero value other := by
  cases recast with
  | int64 number =>
      have zero : number.toInt64 = 0 ↔ number = 0 := by
        rw [← Int64.toInt_inj, ← Int32.toInt_inj, Int32.toInt_toInt64]
        rfl
      have nonzero : (number != 0) = (number.toInt64 != 0) := by
        rw [Bool.eq_iff_iff, bne_iff_ne, bne_iff_ne, Ne, Ne, zero]
      simp [truthy, LosesZero, nonzero]
  | double number =>
      by_cases same : number = 0 <;> simp [truthy, LosesZero, same]
  | same value =>
      simp only [LosesZero, true_iff, not_and, not_exists]
      rintro rfl number
      exact nofun
  | _ => simp [truthy, LosesZero]

/-! ## Equality looks at the kind -/

theorem RecastEntries.keys_eq {entries others : Document}
    (inside : RecastEntries entries others) :
    entries.keys = others.keys := by
  induction entries generalizing others with
  | nil =>
      cases inside
      rfl
  | cons entry rest ih =>
      cases inside with
      | @cons name _ _ _ _ here later => exact congrArg (name :: ·) (ih later)

mutual

theorem Recast.wellFormed {value other : Value} (recast : Recast value other)
    (proper : value.wellFormed = true) : other.wellFormed = true := by
  cases recast with
  | same => exact proper
  | int64 | double => rfl
  | @scopedCode text scope others inside =>
      have proper : Document.wellFormed scope = true := proper
      exact inside.wellFormed proper
  | array inside => exact itemsWellFormed_of_recast inside proper
  | document inside => exact inside.wellFormed proper
termination_by sizeOf value

theorem itemsWellFormed_of_recast {items others : List Value}
    (each : List.Forall₂ Recast items others)
    (proper : itemsWellFormed items = true) :
    itemsWellFormed others = true := by
  cases each with
  | nil => rfl
  | @cons item other rest more here later =>
      simp only [itemsWellFormed, Bool.and_eq_true] at proper ⊢
      exact ⟨here.wellFormed proper.1, itemsWellFormed_of_recast later proper.2⟩
termination_by sizeOf items

theorem RecastEntries.wellFormed {entries others : Document}
    (inside : RecastEntries entries others)
    (proper : entries.wellFormed = true) : others.wellFormed = true := by
  rcases Document.wellFormed_iff.mp proper with ⟨distinct, values⟩
  cases inside with
  | nil => rfl
  | @cons name value other rest more here later =>
      have restProper : rest.wellFormed = true :=
        Document.wellFormed_of_sublist proper (List.sublist_cons_self _ _)
      have absent : name ∉ more.keys := by
        rw [← later.keys_eq]
        exact (List.nodup_cons.mp distinct).1
      exact Document.wellFormed_cons (later.wellFormed restProper)
        (here.wellFormed (values _ List.mem_cons_self))
        (Document.get?_eq_none_iff.mpr absent)
termination_by sizeOf entries

end

-- The recursion is that of `equals`; the third function follows the entries of
-- the first document in the second one, whose names are distinct.
mutual

/-- A value is equal to no other one that it is recast to. -/
theorem Recast.eq_of_equals {value other : Value} (recast : Recast value other)
    (proper : other.wellFormed = true)
    (equal : value.equals other = true) : value = other := by
  cases recast with
  | same => rfl
  | int64 number => simp [equals] at equal
  | double number => simp [equals] at equal
  | @scopedCode text scope others inside =>
      simp only [equals, Bool.and_eq_true] at equal
      rw [inside.eq_of_equalsWithin proper equal.2]
  | @array items others inside =>
      rw [eq_of_equalsEach inside proper equal]
  | @document entries others inside =>
      simp only [equals, Bool.and_eq_true] at equal
      rw [inside.eq_of_equalsWithin proper equal.2]
termination_by sizeOf value

theorem eq_of_equalsEach {items others : List Value}
    (each : List.Forall₂ Recast items others)
    (proper : itemsWellFormed others = true)
    (equal : equalsEach items others = true) : items = others := by
  cases each with
  | nil => rfl
  | @cons item other rest more here later =>
      simp only [equalsEach, Bool.and_eq_true] at equal
      simp only [itemsWellFormed, Bool.and_eq_true] at proper
      rw [here.eq_of_equals proper.1 equal.1,
        eq_of_equalsEach later proper.2 equal.2]
termination_by sizeOf items

theorem RecastEntries.eq_of_equalsWithin {entries others : Document}
    (inside : RecastEntries entries others)
    (proper : others.wellFormed = true)
    (within : equalsWithin entries others = true) : entries = others := by
  cases inside with
  | nil => rfl
  | @cons name value other rest more here later =>
      rcases Document.wellFormed_iff.mp proper with ⟨distinct, values⟩
      have fresh : name ∉ more.keys := (List.nodup_cons.mp distinct).1
      have restProper : more.wellFormed = true :=
        Document.wellFormed_of_sublist proper (List.sublist_cons_self _ _)
      simp only [equalsWithin, Document.get?_cons, if_true,
        Bool.and_eq_true] at within
      have restWithin : equalsWithin rest more = true := by
        rw [equalsWithin_iff] at within ⊢
        intro entry member
        rcases within.2 entry member with ⟨found, foundAt, equal⟩
        have different : name ≠ entry.1 := by
          rintro rfl
          exact fresh (later.keys_eq ▸ List.mem_map_of_mem member)
        rw [Document.get?_cons, if_neg different] at foundAt
        exact ⟨found, foundAt, equal⟩
      rw [here.eq_of_equals (values _ List.mem_cons_self) within.1,
        later.eq_of_equalsWithin restProper restWithin]
termination_by sizeOf entries

end

/-! ## Agreement -/

/-- The same values agree with a value and with another one that it is recast
to: the value is a number, or nothing has been recast in it, or no value agrees
with either of them. -/
def AgreedAlike (value other : Value) : Prop :=
  value.isNumber = true ∨ value = other ∨
    (value.agrees value = false ∧ other.agrees other = false)

/-- Only a number equals a number. -/
theorem equals_eq_false_of_isNumber {found value : Value}
    (foundNumber : found.isNumber = false) (number : value.isNumber = true) :
    found.equals value = false := by
  cases value <;> cases number <;> cases found <;>
    first | rfl | cases foundNumber

theorem Recast.agrees_eq_of_isNumber (recast : Recast value other)
    (number : value.isNumber = true) (found : Value) :
    found.agrees value = found.agrees other := by
  have otherNumber : other.isNumber = true := recast.isNumber_eq ▸ number
  cases foundNumber : found.isNumber with
  | true =>
      simp only [agrees, compare, foundNumber, number, otherNumber,
        Bool.and_self, if_true, recast.compareNumbers_eq]
  | false =>
      simp only [agrees, foundNumber, Bool.false_and, Bool.false_eq_true,
        if_false, equals_eq_false_of_isNumber foundNumber number,
        equals_eq_false_of_isNumber foundNumber otherNumber]

theorem Recast.agrees_eq (recast : Recast value other)
    (alike : AgreedAlike value other) (proper : value.wellFormed = true)
    {found : Value} (foundProper : found.wellFormed = true) :
    found.agrees value = found.agrees other := by
  have otherProper := recast.wellFormed proper
  rcases alike with number | rfl | ⟨apart, otherApart⟩
  · exact recast.agrees_eq_of_isNumber number found
  · rfl
  · have unmet : found.agrees value = false := by
      rw [← Bool.not_eq_true]
      intro agree
      simp [agrees_self_of_agrees foundProper proper agree] at apart
    have otherUnmet : found.agrees other = false := by
      rw [← Bool.not_eq_true]
      intro agree
      simp [agrees_self_of_agrees foundProper otherProper agree] at otherApart
    rw [unmet, otherUnmet]

theorem Recast.agreesOrContains_eq (recast : Recast value other)
    (alike : AgreedAlike value other) (proper : value.wellFormed = true)
    {found : Value} (foundProper : found.wellFormed = true) :
    found.agreesOrContains value = found.agreesOrContains other := by
  unfold agreesOrContains
  rw [recast.agrees_eq alike proper foundProper]
  cases found with
  | array items =>
      have inside (item : Value) (member : item ∈ items) :
          item.agrees value = item.agrees other :=
        recast.agrees_eq alike proper
          (wellFormed_array.mp foundProper item member)
      congr 1
      rw [Bool.eq_iff_iff, List.any_eq_true, List.any_eq_true]
      exact exists_congr fun item => and_congr_right fun member => by
        rw [inside item member]
  | _ => rfl

/-! ## Values that tell two operands apart -/

/-- An array that holds a value need not agree with another one: if it does
with nothing else in it, it does not with one more item. -/
theorem exists_holding (held target : Value) :
    ∃ items : List Value, held ∈ items ∧
      (∀ item ∈ items, item = held ∨ item = .null) ∧
      (Value.array items).agrees target = false := by
  cases alone : (Value.array [held]).agrees target with
  | false => exact ⟨[held], by simp, by simp, alone⟩
  | true =>
      refine ⟨[held, .null], by simp, by simp, ?_⟩
      cases target with
      | array items =>
          rcases items with _ | ⟨first, _ | ⟨second, rest⟩⟩ <;>
            simp [agrees, isNumber, equals, equalsEach] at alone ⊢
      | _ => simp [agrees, isNumber, equals]

theorem exists_discerning {held target : Value}
    (proper : held.wellFormed = true) (self : held.agrees held = true)
    (apart : held.agrees target = false)
    (notNull : Value.null.agrees target = false) :
    ∃ found : Value, found.wellFormed = true ∧
      found.agreesOrContains held ≠ found.agreesOrContains target := by
  rcases exists_holding held target with ⟨items, holds, only, outside⟩
  have met : (Value.array items).agreesOrContains held = true := by
    simp only [agreesOrContains, Bool.or_eq_true, List.any_eq_true]
    exact Or.inr ⟨held, holds, self⟩
  have unmet : (Value.array items).agreesOrContains target = false := by
    simp only [agreesOrContains, outside, Bool.false_or, List.any_eq_false]
    intro item member
    rcases only item member with rfl | rfl
    · simp [apart]
    · simp [notNull]
  refine ⟨.array items, wellFormed_array.mpr fun item member => ?_, ?_⟩
  · rcases only item member with rfl | rfl
    · exact proper
    · rfl
  · rw [met, unmet]
    exact nofun

/-- Operands that the same values agree with or contain are alike. -/
theorem Recast.agreedAlike (recast : Recast value other)
    (proper : value.wellFormed = true)
    (same : ∀ found : Value, found.wellFormed = true →
      found.agreesOrContains value = found.agreesOrContains other) :
    AgreedAlike value other := by
  have otherProper := recast.wellFormed proper
  by_contra unlike
  simp only [AgreedAlike, not_or, Bool.not_eq_true, not_and] at unlike
  rcases unlike with ⟨number, changed, someSelf⟩
  have notNull : Value.null.agrees value = false ∧
      Value.null.agrees other = false := by
    cases recast with
    | same => exact absurd rfl changed
    | int64 => cases number
    | double => cases number
    | _ => simp [agrees, isNumber, equals]
  cases self : value.agrees value with
  | true =>
      have apart : value.agrees other = false := by
        rw [← Bool.not_eq_true]
        intro agree
        simp only [agrees, number, Bool.false_and, Bool.false_eq_true,
          if_false] at agree
        exact changed (recast.eq_of_equals otherProper agree)
      rcases exists_discerning proper self apart notNull.2 with
        ⟨found, foundProper, differs⟩
      exact differs (same found foundProper)
  | false =>
      have otherSelf : other.agrees other = true := by
        simpa using someSelf self
      have apart : other.agrees value = false := by
        rw [← Bool.not_eq_true]
        intro agree
        rw [agrees_self_of_agrees otherProper proper agree] at self
        cases self
      rcases exists_discerning otherProper otherSelf apart notNull.1 with
        ⟨found, foundProper, differs⟩
      exact differs (same found foundProper).symm

end Value

end DocQuery
