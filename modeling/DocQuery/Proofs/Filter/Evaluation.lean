import DocQuery.Filter
import Mathlib.Data.List.Basic

/-!
# Evaluation in order

All loops of the evaluation have one shape.  Conditions are tried in order,
and the first one that fails or gives the answer that settles the matter is
the outcome: an unmet condition where all have to be met, a met one where one
is enough.  Entries, operators and branches are tried in this way.
-/

namespace DocQuery

namespace Filter

/-- The outcome of trying conditions in order: the first one that fails or
gives the settling answer, and otherwise the other answer. -/
def untilSettled (settling : Bool) :
    List (Except StoreError Bool) → Except StoreError Bool
  | [] => .ok !settling
  | .error failure :: _ => .error failure
  | .ok answer :: rest =>
    if answer = settling then .ok settling else untilSettled settling rest

section

variable {Item : Type} {settling : Bool} {items : List Item}

/-- Conditions may be taken together before they are tried. -/
theorem untilSettled_append (settling : Bool)
    (first second : List (Except StoreError Bool)) :
    untilSettled settling (first ++ second) =
      untilSettled settling (untilSettled settling first :: second) := by
  induction first with
  | nil => cases settling <;> rfl
  | cons outcome rest ih =>
    cases outcome with
    | error failure => rfl
    | ok answer =>
      by_cases settled : answer = settling
      · simp [untilSettled, settled]
      · simp only [List.cons_append, untilSettled, settled, if_false]
        exact ih

theorem untilSettled_flatten (settling : Bool)
    (groups : List (List (Except StoreError Bool))) :
    untilSettled settling groups.flatten =
      untilSettled settling (groups.map (untilSettled settling)) := by
  induction groups with
  | nil => rfl
  | cons group rest ih =>
    rw [List.flatten_cons, untilSettled_append, List.map_cons]
    cases untilSettled settling group with
    | error failure => rfl
    | ok answer => simp only [untilSettled, ih]

/-- When no condition fails, all of them count. -/
theorem untilSettled_of_ok {outcome : Item → Except StoreError Bool}
    {answer : Item → Bool}
    (evaluated : ∀ item ∈ items, outcome item = .ok (answer item)) :
    untilSettled settling (items.map outcome) =
      .ok ((items.any fun item => answer item == settling) == settling) := by
  induction items with
  | nil => cases settling <;> rfl
  | cons item rest ih =>
    have others := ih fun later member =>
      evaluated later (List.mem_cons_of_mem item member)
    rw [List.map_cons, evaluated item List.mem_cons_self, List.any_cons]
    by_cases settled : answer item = settling
    · simp [untilSettled, settled]
    · simp [untilSettled, settled, others, beq_false_of_ne settled]

theorem untilSettled_false_of_ok {outcome : Item → Except StoreError Bool}
    {answer : Item → Bool}
    (evaluated : ∀ item ∈ items, outcome item = .ok (answer item)) :
    untilSettled false (items.map outcome) = .ok (items.all answer) := by
  rw [untilSettled_of_ok evaluated, List.all_eq_not_any_not]
  simp

theorem untilSettled_true_of_ok {outcome : Item → Except StoreError Bool}
    {answer : Item → Bool}
    (evaluated : ∀ item ∈ items, outcome item = .ok (answer item)) :
    untilSettled true (items.map outcome) = .ok (items.any answer) := by
  rw [untilSettled_of_ok evaluated]
  simp

/-- Nothing settles the matter exactly if all conditions give the other
answer. -/
theorem untilSettled_eq_ok_not_iff {outcome : Item → Except StoreError Bool} :
    untilSettled settling (items.map outcome) = .ok !settling ↔
      ∀ item ∈ items, outcome item = .ok !settling := by
  induction items with
  | nil => simp [untilSettled]
  | cons item rest ih =>
    rw [List.map_cons, List.forall_mem_cons, ← ih]
    cases outcome item with
    | error failure => simp [untilSettled]
    | ok answer =>
      by_cases settled : answer = settling
      · simp [untilSettled, settled]
      · simp [untilSettled, Bool.eq_not_of_ne settled]

/-- The evaluation fails exactly where a condition fails and nothing before it
settles the matter. -/
theorem untilSettled_eq_error_iff {outcome : Item → Except StoreError Bool}
    {failure : StoreError} :
    untilSettled settling (items.map outcome) = .error failure ↔
      ∃ before item after, items = before ++ item :: after ∧
        (∀ earlier ∈ before, outcome earlier = .ok !settling) ∧
        outcome item = .error failure := by
  constructor
  · intro failed
    induction items with
    | nil => cases failed
    | cons item rest ih =>
      rw [List.map_cons] at failed
      cases here : outcome item with
      | error reason =>
        rw [here] at failed
        rcases Except.error.inj failed with rfl
        exact ⟨[], item, rest, rfl, by simp, here⟩
      | ok answer =>
        rw [here] at failed
        by_cases settled : answer = settling
        · simp [untilSettled, settled] at failed
        · simp only [untilSettled, settled, if_false] at failed
          rcases ih failed with ⟨before, bad, after, rfl, passed, last⟩
          refine ⟨item :: before, bad, after, rfl, ?_, last⟩
          rw [Bool.eq_not_of_ne settled] at here
          exact List.forall_mem_cons.mpr ⟨here, passed⟩
  · rintro ⟨before, item, after, rfl, passed, failed⟩
    rw [List.map_append, untilSettled_append,
      untilSettled_eq_ok_not_iff.mpr passed, List.map_cons, failed]
    simp [untilSettled]

end

variable (document : Document)

/-! ## The loops -/

theorem meetsEach_eq_untilSettled (value : Option Value)
    (all operators : Document) :
    meetsEach value all operators =
      untilSettled false
        (operators.map fun entry =>
          meetsOperator value all entry.1 entry.2) := by
  induction operators with
  | nil => rfl
  | cons entry rest ih =>
    rcases entry with ⟨operator, operand⟩
    simp only [meetsEach, List.map_cons]
    rcases meetsOperator value all operator operand with failure | _ | _
    · rfl
    · rfl
    · simpa [untilSettled] using ih

theorem meets_eq_untilSettled (filter : Document) :
    document.meets filter =
      untilSettled false
        (filter.map fun entry => matchesEntry document entry.1 entry.2) := by
  unfold Document.meets
  induction filter with
  | nil => rfl
  | cons entry rest ih =>
    rcases entry with ⟨name, condition⟩
    simp only [matchesEntries, List.map_cons]
    rcases matchesEntry document name condition with failure | _ | _
    · rfl
    · rfl
    · simpa [untilSettled] using ih

theorem matchesAll_documents (filters : List Document) :
    matchesAll document (filters.map .document) =
      untilSettled false (filters.map document.meets) := by
  induction filters with
  | nil => rfl
  | cons filter rest ih =>
    simp only [matchesAll, List.map_cons, Document.meets]
    rcases matchesEntries document filter with failure | _ | _
    · rfl
    · rfl
    · simpa [untilSettled] using ih

theorem matchesAny_documents (filters : List Document) :
    matchesAny document (filters.map .document) =
      untilSettled true (filters.map document.meets) := by
  induction filters with
  | nil => rfl
  | cons filter rest ih =>
    simp only [matchesAny, List.map_cons, Document.meets]
    rcases matchesEntries document filter with failure | _ | _
    · rfl
    · simpa [untilSettled] using ih
    · rfl

/-! ## Entries -/

theorem meets_singleton (name : String) (condition : Value) :
    document.meets [(name, condition)] =
      matchesEntry document name condition := by
  rw [meets_eq_untilSettled, List.map_singleton]
  rcases matchesEntry document name condition with failure | _ | _ <;> rfl

/-- The entries of a second filter are tried when the first one is met. -/
theorem meets_append (first second : Document) :
    document.meets (first ++ second) =
      match document.meets first with
      | .ok true => document.meets second
      | other => other := by
  simp only [meets_eq_untilSettled, List.map_append, untilSettled_append]
  cases untilSettled false
      (first.map fun entry => matchesEntry document entry.1 entry.2) with
  | error failure => rfl
  | ok met => cases met <;> rfl

/-- The entries of several filters, one after the other, ask for all of
them. -/
theorem meets_flatten (filters : List Document) :
    document.meets filters.flatten =
      untilSettled false (filters.map document.meets) := by
  rw [meets_eq_untilSettled, List.map_flatten, untilSettled_flatten,
    List.map_map]
  congr 1
  refine List.map_congr_left fun filter _ => ?_
  rw [meets_eq_untilSettled, Function.comp_apply]

/-- A name under which a list of filters stands. -/
def IsLogical (name : String) : Prop :=
  name = "$and" ∨ name = "$or" ∨ name = "$nor"

/-- Values that are all documents are filters. -/
theorem exists_filters {items : List Value}
    (documents : ∀ item ∈ items, item.asDocument?.isSome = true) :
    ∃ filters : List Document, items = filters.map .document := by
  induction items with
  | nil => exact ⟨[], rfl⟩
  | cons item rest ih =>
    rcases ih fun later member =>
      documents later (List.mem_cons_of_mem item member) with ⟨filters, rfl⟩
    rcases Option.isSome_iff_exists.mp (documents item List.mem_cons_self)
      with ⟨filter, here⟩
    cases item with
    | document entries => exact ⟨entries :: filters, rfl⟩
    | _ => cases here

/-- A logical operator takes filters, at least one. -/
theorem branches_eq_ok_iff {operator : String} {items : List Value} :
    branches operator (.array items) = .ok () ↔
      ∃ filters : List Document,
        filters ≠ [] ∧ items = filters.map .document := by
  constructor
  · intro accepted
    by_cases filled : items = []
    · simp [branches, filled] at accepted
    · by_cases documents : ∀ item ∈ items, item.asDocument?.isSome = true
      · rcases exists_filters documents with ⟨filters, rfl⟩
        exact ⟨filters, by simpa using filled, rfl⟩
      · simp [branches, filled, documents] at accepted
  · rintro ⟨filters, filled, rfl⟩
    simp [branches, filled, Value.asDocument?]

theorem matchesEntry_and {filters : List Document} (filled : filters ≠ []) :
    matchesEntry document "$and" (.array (filters.map .document)) =
      untilSettled false (filters.map document.meets) := by
  rw [matchesEntry, if_neg (by decide), if_pos rfl,
    branches_eq_ok_iff.mpr ⟨filters, filled, rfl⟩]
  exact matchesAll_documents document filters

theorem matchesEntry_or {filters : List Document} (filled : filters ≠ []) :
    matchesEntry document "$or" (.array (filters.map .document)) =
      untilSettled true (filters.map document.meets) := by
  rw [matchesEntry, if_pos rfl,
    branches_eq_ok_iff.mpr ⟨filters, filled, rfl⟩]
  exact matchesAny_documents document filters

theorem matchesEntry_nor {filters : List Document} (filled : filters ≠ []) :
    matchesEntry document "$nor" (.array (filters.map .document)) =
      (untilSettled true (filters.map document.meets)).map (!·) := by
  rw [matchesEntry, if_neg (by decide), if_neg (by decide), if_pos rfl,
    branches_eq_ok_iff.mpr ⟨filters, filled, rfl⟩]
  exact congrArg (Except.map (!·)) (matchesAny_documents document filters)

/-- An entry under the name of a field is a condition on the value at the
field's path. -/
theorem matchesEntry_of_field {path : String}
    (field : isOperatorName path = false) (condition : Value) :
    matchesEntry document path condition =
      meetsCondition (document.getPath? path) condition := by
  have notOr : path ≠ "$or" := by rintro rfl; exact absurd field (by decide)
  have notAnd : path ≠ "$and" := by rintro rfl; exact absurd field (by decide)
  have notNor : path ≠ "$nor" := by rintro rfl; exact absurd field (by decide)
  unfold matchesEntry
  split <;> simp [notOr, notAnd, notNor, field]

/-! ## Literals -/

/-- A condition of a filter compares the value at a path with a literal. -/
def isLiteral (condition : String × Value) : Bool :=
  !isOperatorName condition.1 && (operators? condition.2).isNone

theorem matchesEntry_of_isLiteral {path : String} {literal : Value}
    (given : isLiteral (path, literal) = true) (document : Document) :
    matchesEntry document path literal =
      .ok (agrees (document.getPath? path) literal) := by
  simp only [isLiteral, Bool.and_eq_true, Bool.not_eq_true',
    Option.isNone_iff_eq_none] at given
  rcases given with ⟨field, plain⟩
  rw [matchesEntry_of_field document field, meetsCondition, plain]

end Filter

/-- A document meets a filter of literals if its values agree with all of
them. -/
theorem Document.meets_of_isLiteral {filter : Document}
    (literal : ∀ condition ∈ filter, Filter.isLiteral condition = true)
    (document : Document) :
    document.meets filter = .ok (filter.all fun condition =>
      Filter.agrees (document.getPath? condition.1) condition.2) := by
  unfold meets
  induction filter with
  | nil => rfl
  | cons condition rest ih =>
      rcases condition with ⟨path, operand⟩
      have first := Filter.matchesEntry_of_isLiteral
        (literal _ List.mem_cons_self) document
      have later := ih fun condition member =>
        literal condition (List.mem_cons_of_mem _ member)
      simp only [Filter.matchesEntries, first, List.all_cons]
      cases Filter.agrees (document.getPath? path) operand with
      | true => simpa using later
      | false => rfl

end DocQuery
