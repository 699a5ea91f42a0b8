import DocQuery.Proofs.Clause.Directive
import DocQuery.Proofs.Grouping

/-!
# The fields of a sort

A query is sorted by the fields that its directives name, whatever else they
say: every field once, at the place where it was named first and in the
direction that it was given last.
-/

namespace DocQuery

namespace Directive

/-- A field to sort by, with the direction that a value reads as. -/
def sorting (entry : String × Value) : String × Value :=
  (entry.1, (Direction.ofValue entry.2).toValue)

/-- The fields that a directive sorts by, in order. -/
def sortings : Directive → Document
  | .orderBy fields => fields.map sorting
  | .orderByField field direction => [sorting (field, direction)]
  | _ => []

end Directive

namespace Envelope

/-- The fields to sort by, with their directions as values. -/
def sortEntries (envelope : Envelope) : Document :=
  envelope.sorts.map fun (field, direction) => (field, direction.toValue)

theorem sortEntries_order (envelope : Envelope) (field : String)
    (direction : Direction) :
    (envelope.order field direction).sortEntries =
      envelope.sortEntries.insert field direction.toValue := by
  have placed (sorts : List (String × Direction)) :
      (putDirection field direction sorts).map
          (fun (field, direction) => (field, direction.toValue)) =
        Document.insert
          (sorts.map fun (field, direction) => (field, direction.toValue))
          field direction.toValue := by
    induction sorts with
    | nil => rfl
    | cons entry rest ih =>
      rcases entry with ⟨known, old⟩
      simp only [putDirection, List.map_cons, Document.insert, ← ih]
      split <;> rfl
  exact placed envelope.sorts

theorem sortEntries_orderBy (envelope : Envelope) (fields : Document) :
    (envelope.orderBy fields).sortEntries =
      envelope.sortEntries.merge (fields.map Directive.sorting) := by
  rw [Document.merge, List.foldl_map]
  exact (List.foldl_hom sortEntries fun envelope entry =>
    (sortEntries_order envelope entry.1 (.ofValue entry.2)).symm).symm

theorem sortEntries_follow (envelope : Envelope) (directive : Directive) :
    (envelope.follow directive).sortEntries =
      envelope.sortEntries.merge directive.sortings := by
  cases directive with
  | orderBy fields => exact sortEntries_orderBy envelope fields
  | orderByField field direction =>
    exact sortEntries_order envelope field (.ofValue direction)
  | select includes excludes =>
    exact select_unchanged sortEntries (fun _ _ => rfl) (fun _ _ => rfl) ..
  | limit value =>
    rw [follow, setLimit_eq]
    rfl
  | offset value =>
    rw [follow, setOffset_eq]
    rfl
  | condition => rfl
  | change => rfl

/-- A query that sorts by nothing yet is sorted by what the directives that it
is told name. -/
theorem sort_followAll {envelope : Envelope} (unsorted : envelope.sorts = [])
    (directives : List Directive) :
    (envelope.followAll directives).sort =
      Document.lastGiven (directives.flatMap Directive.sortings) := by
  have entries : (envelope.followAll directives).sortEntries =
      Document.lastGiven (directives.flatMap Directive.sortings) := by
    have empty : envelope.sortEntries = [] := by
      rw [sortEntries, unsorted, List.map_nil]
    rw [← Document.merge_nil, ← empty]
    exact foldl_pieces sortEntries sortEntries_follow directives envelope
  have sorted : (envelope.followAll directives).sort =
      Document.ofEntries (envelope.followAll directives).sortEntries := rfl
  rw [sorted, entries]
  exact Document.merge_nil_of_distinct (Document.distinct_lastGiven _)

end Envelope

end DocQuery
