import DocQuery.Proofs.Document.Path
import DocQuery.Proofs.Filter.Evaluation

/-!
# Filters that ask for an `_id`

A literal that is asked for under `_id` is met by the documents whose `_id`
agrees with it, and by those that have an array there with an item that does.
-/

namespace DocQuery

namespace Document

variable {document : Document}

/-- The `_id` of a document agrees with a value or contains it. -/
def isIdentifiedBy (document : Document) (id : Value) : Bool :=
  Filter.agrees (document.get? "_id") id

theorem matchesEntry_id {id : Value} (literal : Filter.operators? id = none) :
    Filter.matchesEntry document "_id" id =
      .ok (document.isIdentifiedBy id) := by
  rw [Filter.matchesEntry_of_field document (by decide), Filter.meetsCondition,
    literal, getPath?_id]
  rfl

/-- The `_id` of a document is an array with an item that agrees with a
value. -/
def listsIdentifier (document : Document) (id : Value) : Bool :=
  match document.get? "_id" with
  | some (.array items) => items.any (·.agrees id)
  | _ => false

theorem meets_id {id : Value} (literal : Filter.operators? id = none) :
    document.meets [("_id", id)] = .ok (document.isIdentifiedBy id) := by
  rw [Filter.meets_singleton, matchesEntry_id literal]

theorem isIdentifiedBy_of_get? {found : Value}
    (here : document.get? "_id" = some found) (id : Value) :
    document.isIdentifiedBy id =
      (found.agrees id || document.listsIdentifier id) := by
  rw [isIdentifiedBy, listsIdentifier, here]
  cases found <;> rfl

theorem isIdentifiedBy_of_absent (absent : document.get? "_id" = none)
    (id : Value) :
    document.isIdentifiedBy id = Value.null.agrees id := by
  rw [isIdentifiedBy, absent]
  cases id <;> rfl

end Document

end DocQuery
