import DocQuery.Clause.Like

/-!
# Accumulated predicates

The predicates of a query under construction: one for every field, in the
order in which the fields were first named, and the branches of which one must
hold.
-/

namespace DocQuery

/-- The predicate on one field. -/
inductive Predicate where
  /-- The field equals a literal. -/
  | literal (value : Value)
  /-- The field meets operators. -/
  | operators (entries : Document)
  /-- The field holds a text. -/
  | like (pattern : TextPattern)
  deriving Inhabited

/-- The condition that expresses a predicate in a filter. -/
def Predicate.toValue : Predicate → Value
  | .literal value => value
  | .operators entries => .document entries
  | .like pattern => .document pattern.toDocument

/-- The predicates of a query under construction. -/
structure Predicates where
  /-- The predicate of every field that was named. -/
  fields : List (String × Predicate)
  /-- The branches of which one must hold, if any was given. -/
  branches : Option (List Document)
  deriving Inhabited

namespace Predicates

/-- No predicates. -/
def empty : Predicates := ⟨[], none⟩

/-- Neither a field nor a branch was named. -/
def isEmpty (predicates : Predicates) : Bool :=
  predicates.fields.isEmpty && predicates.branches.isNone

/-- Change the predicate of a field, which is an empty set of operators when
the field was not named before. -/
def change (edit : Predicate → Predicate) (field : String) :
    List (String × Predicate) → List (String × Predicate)
  | [] => [(field, edit (.operators []))]
  | (known, predicate) :: rest =>
    if known = field then (known, edit predicate) :: rest
    else (known, predicate) :: change edit field rest

/-- The predicate of a field. -/
def get? (predicates : Predicates) (field : String) : Option Predicate :=
  predicates.fields.lookup field

/-- Change the predicate of a field. -/
def edit (predicates : Predicates) (field : String)
    (change : Predicate → Predicate) : Predicates :=
  { predicates with
    fields := Predicates.change change field predicates.fields }

/-- Let a field equal a literal. -/
def setLiteral (predicates : Predicates) (field : String) (value : Value) :
    Predicates :=
  predicates.edit field fun _ => .literal value

/-- Let a field hold a text. -/
def setPattern (predicates : Predicates) (field : String)
    (pattern : TextPattern) : Predicates :=
  predicates.edit field fun _ => .like pattern

/-- Give an operator an operand; a literal or text predicate gives way. -/
def putOperator (operator : String) (operand : Value) : Predicate → Predicate
  | .operators entries => .operators (entries.insert operator operand)
  | _ => .operators [(operator, operand)]

/-- Let a field meet an operator beside those that it must meet already. -/
def setOperator (predicates : Predicates) (field operator : String)
    (operand : Value) : Predicates :=
  predicates.edit field (putOperator operator operand)

/-- Add a branch. -/
def addBranch (predicates : Predicates) (branch : Document) : Predicates :=
  { predicates with
    branches := some (predicates.branches.getD [] ++ [branch]) }

/-- The filter that expresses the predicates; the branches come last. -/
def compile (predicates : Predicates) : Document :=
  let filter : Document := predicates.fields.foldl
    (fun filter (field, predicate) =>
      Document.insert filter field predicate.toValue) []
  match predicates.branches with
  | none => filter
  | some branches => filter.insert "$or" (.array (branches.map .document))

@[simp]
theorem compile_empty : compile empty = [] := rfl

theorem lookup_change_self (edit : Predicate → Predicate) (field : String)
    (fields : List (String × Predicate)) :
    (change edit field fields).lookup field =
      some (edit ((fields.lookup field).getD (.operators []))) := by
  induction fields with
  | nil => simp [change]
  | cons entry rest ih =>
    obtain ⟨known, predicate⟩ := entry
    by_cases same : known = field
    · simp [change, same]
    · have other : (field == known) = false := by simp [Ne.symm same]
      simp [change, same, List.lookup_cons, other, ih]

theorem lookup_change_ne (edit : Predicate → Predicate) {field other : String}
    (different : other ≠ field) (fields : List (String × Predicate)) :
    (change edit field fields).lookup other = fields.lookup other := by
  have unequal : (other == field) = false := by simp [different]
  induction fields with
  | nil => simp [change, List.lookup_cons, unequal]
  | cons entry rest ih =>
    obtain ⟨known, predicate⟩ := entry
    by_cases same : known = field
    · subst same
      simp [change, List.lookup_cons, unequal]
    · simp [change, same, List.lookup_cons, ih]

@[simp]
theorem get?_setLiteral_self (predicates : Predicates) (field : String)
    (value : Value) :
    (predicates.setLiteral field value).get? field = some (.literal value) :=
  lookup_change_self _ field predicates.fields

@[simp]
theorem get?_setPattern_self (predicates : Predicates) (field : String)
    (pattern : TextPattern) :
    (predicates.setPattern field pattern).get? field = some (.like pattern) :=
  lookup_change_self _ field predicates.fields

theorem get?_edit_ne (predicates : Predicates) {field other : String}
    (different : other ≠ field) (change : Predicate → Predicate) :
    (predicates.edit field change).get? other = predicates.get? other :=
  lookup_change_ne change different predicates.fields

end Predicates

end DocQuery
