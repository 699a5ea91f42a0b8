import DocQuery.Proofs.Sorting
import DocQuery.Proofs.Value.Sign

/-!
# Lexicographic order

A sort with several fields is a lexicographic order: of two documents the one
comes first that comes first by the first field by which they do not tie.  What
an entry of a sort says about two documents is told here by the values under
its path alone, without a comparison of optional values.  A sort looks at eight
fields, so it is the lexicographic order of its first eight entries.
-/

namespace DocQuery.Sorting

variable {left right : Document} {path : String} {entry : String × Value}
  {sort : Document}

/-! ## One field -/

/-- A document stands below another one by a path: the other one has a value
there, and it has none or a lesser one. -/
def Below (path : String) (left right : Document) : Prop :=
  ∃ upper, right.getPath? path = some upper ∧
    ∀ lower, left.getPath? path = some lower → lower.compare upper = .lt

/-- Two documents tie by a path: both have no value there, or values that the
sort order does not tell apart. -/
def Ties (path : String) (left right : Document) : Prop :=
  (left.getPath? path = none ∧ right.getPath? path = none) ∨
    ∃ value other, left.getPath? path = some value ∧
      right.getPath? path = some other ∧ value.compare other = .eq

theorem compareFields_eq_lt_iff :
    compareFields (left.getPath? path) (right.getPath? path) = .lt ↔
      Below path left right := by
  unfold Below
  cases left.getPath? path <;> cases right.getPath? path <;>
    simp [compareFields]

theorem compareFields_swap (first second : Option Value) :
    compareFields second first = (compareFields first second).swap := by
  cases first with
  | none => cases second <;> rfl
  | some value =>
    cases second with
    | none => rfl
    | some other => exact Value.compare_swap value other

theorem compareFields_eq_gt_iff :
    compareFields (left.getPath? path) (right.getPath? path) = .gt ↔
      Below path right left := by
  rw [← compareFields_eq_lt_iff, compareFields_swap (left.getPath? path)]
  cases compareFields (left.getPath? path) (right.getPath? path) <;> simp

theorem compareFields_eq_eq_iff :
    compareFields (left.getPath? path) (right.getPath? path) = .eq ↔
      Ties path left right := by
  unfold Ties
  cases left.getPath? path <;> cases right.getPath? path <;>
    simp [compareFields]

theorem ties_comm : Ties path left right ↔ Ties path right left := by
  rw [← compareFields_eq_eq_iff, ← compareFields_eq_eq_iff,
    compareFields_swap (left.getPath? path)]
  cases compareFields (left.getPath? path) (right.getPath? path) <;> simp

/-! ## One entry -/

/-- A direction turns a sort around: it is a number below zero that does not
round to zero. -/
def isDescending (direction : Value) : Bool :=
  direction.isNegative && !direction.roundsToZero

/-- A document comes before another one by an entry of a sort. -/
def Precedes (entry : String × Value) (left right : Document) : Prop :=
  if isDescending entry.2 then Below entry.1 right left
  else Below entry.1 left right

/-- The outcome of an entry of a sort. -/
def compareEntry (entry : String × Value) (left right : Document) : Ordering :=
  let order :=
    compareFields (left.getPath? entry.1) (right.getPath? entry.1)
  if isDescending entry.2 then order.swap else order

theorem compareEntry_eq_lt_iff :
    compareEntry entry left right = .lt ↔ Precedes entry left right := by
  unfold compareEntry Precedes
  split
  · rw [← compareFields_eq_gt_iff]
    exact Ordering.swap_eq_lt
  · exact compareFields_eq_lt_iff

theorem compareEntry_eq_gt_iff :
    compareEntry entry left right = .gt ↔ Precedes entry right left := by
  unfold compareEntry Precedes
  split
  · rw [← compareFields_eq_lt_iff]
    exact Ordering.swap_eq_gt
  · exact compareFields_eq_gt_iff

theorem compareEntry_eq_eq_iff :
    compareEntry entry left right = .eq ↔ Ties entry.1 left right := by
  rw [← compareFields_eq_eq_iff]
  unfold compareEntry
  split
  · exact Ordering.swap_eq_eq
  · exact Iff.rfl

/-! ## All entries -/

/-- A document comes before another one by the first entry of a sort by which
they do not tie. -/
inductive LexBefore (left right : Document) : Document → Prop
  | decided {entry : String × Value} {rest : Document} :
      Precedes entry left right → LexBefore left right (entry :: rest)
  | tied {entry : String × Value} {rest : Document} :
      Ties entry.1 left right → LexBefore left right rest →
        LexBefore left right (entry :: rest)

theorem lexBefore_cons_iff {rest : Document} :
    LexBefore left right (entry :: rest) ↔
      Precedes entry left right ∨
        Ties entry.1 left right ∧ LexBefore left right rest := by
  constructor
  · rintro (first | ⟨level, later⟩)
    · exact .inl first
    · exact .inr ⟨level, later⟩
  · rintro (first | ⟨level, later⟩)
    · exact .decided first
    · exact .tied level later

/-- The outcome of a comparison is that of the first entry by which two
documents do not tie. -/
structure Lexicographic (sort left right : Document) (outcome : Ordering) :
    Prop where
  before : outcome = .lt ↔ LexBefore left right sort
  behind : outcome = .gt ↔ LexBefore right left sort
  level : outcome = .eq ↔ ∀ entry ∈ sort, Ties entry.1 left right

theorem compareBy_cons (entry : String × Value) (rest left right : Document) :
    compareBy left right (entry :: rest) =
      (compareEntry entry left right).then (compareBy left right rest) := by
  rcases entry with ⟨path, direction⟩
  simp only [compareBy, compareEntry, isDescending, ← Value.isBelowZero_eq]
  cases compareFields (left.getPath? path) (right.getPath? path) <;>
    cases direction.isBelowZero <;> rfl

/-- Comparing by all entries of a sort is lexicographic. -/
theorem lexicographic_compareBy (sort left right : Document) :
    Lexicographic sort left right (compareBy left right sort) := by
  induction sort with
  | nil =>
    refine ⟨?_, ?_, ?_⟩
    · exact ⟨nofun, nofun⟩
    · exact ⟨nofun, nofun⟩
    · simp [compareBy]
  | cons entry rest ih =>
    constructor
    case before =>
      rw [compareBy_cons, Ordering.then_eq_lt, ih.before, lexBefore_cons_iff,
        compareEntry_eq_lt_iff, compareEntry_eq_eq_iff]
    case behind =>
      rw [compareBy_cons, Ordering.then_eq_gt, ih.behind, lexBefore_cons_iff,
        compareEntry_eq_gt_iff, compareEntry_eq_eq_iff, ties_comm]
    case level =>
      rw [compareBy_cons, Ordering.then_eq_eq, ih.level, List.forall_mem_cons,
        compareEntry_eq_eq_iff]

/-- A sort compares lexicographically by its first eight entries. -/
theorem lexicographic_compare (sort left right : Document) :
    Lexicographic (sort.take maxFields) left right
      (left.compareBy right sort) :=
  lexicographic_compareBy (sort.take maxFields) left right

/-- Nine fields with the same number. -/
def nineFields : Document :=
  ["a", "b", "c", "d", "e", "f", "g", "h", "i"].map fun name =>
    (name, .ofInt 1)

/-- The order of all entries is another one: a ninth field is not looked at,
nor is one that reading does not find, and a negative direction that rounds to
zero does not turn anything around. -/
theorem compareBy_ne_of_limits :
    let ninth : Document := nineFields.insert "i" (.ofInt 2)
    let faint : Value := .decimal (.finite true 1 (-400))
    (nineFields.compareBy ninth nineFields = .eq ∧
        LexBefore nineFields ninth nineFields) ∧
      Document.compareBy [("", .ofInt 1)] [("", .ofInt 2)]
        [("", .ofInt 1)] = .eq ∧
      faint.isNegative = true ∧
      Document.compareBy [("n", .ofInt 1)] [("n", .ofInt 2)]
        [("n", faint)] = .lt := by
  intro ninth faint
  have whole : compareBy nineFields ninth nineFields = .lt := by
    decide +kernel
  refine ⟨⟨by decide +kernel, ?_⟩, by decide +kernel, by decide +kernel,
    by decide +kernel⟩
  exact (lexicographic_compareBy nineFields _ _).before.mp whole

/-! ## Sorted documents -/

/-- Documents of which no two hold a string and a symbol under a path that a
sort looks at are sorted lexicographically. -/
theorem pairwise_sortAll {documents : List Document}
    (unmixed : ∀ left ∈ documents, ∀ right ∈ documents,
      left.Unmixed right (sort.take maxFields)) :
    (Document.sortAll sort documents).Pairwise fun earlier later =>
      ¬ LexBefore later earlier (sort.take maxFields) := by
  have orders : Orders (fun left right => Document.compareBy left right sort)
      (· ∈ documents) := orders_of_unmixed unmixed
  rcases Document.isStableSort_sortAll_of_orders orders fun _ member => member
    with ⟨placed, stablySorted, sorted⟩
  rw [sorted, List.pairwise_map]
  refine stablySorted.ordered.imp fun {earlier later} ordered => ?_
  rwa [← (lexicographic_compare sort earlier.1 later.1).behind]

end DocQuery.Sorting
