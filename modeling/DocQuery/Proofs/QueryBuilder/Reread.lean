import DocQuery.Proofs.Clause.Sorts
import DocQuery.Proofs.Json.Reread
import DocQuery.Proofs.Projection.Identifier
import DocQuery.Proofs.Sorting.Fields
import DocQuery.Proofs.Store.Naming
import DocQuery.QueryBuilder

/-!
# Sorts and commands read back from logs

The sort of a query and a command with simple values are documents in which the
order of entries has a meaning, and this order is lost when they are written as
texts and read back.  A sort read back orders all documents as before exactly
if the fields that it looks at are still the same in the same order; a command
read back does the same exactly if it still begins with the same name.
-/

namespace DocQuery

open Sorting

/-! ## The sort of a query -/

namespace Envelope

theorem distinct_sort (envelope : Envelope) : envelope.sort.Distinct := by
  rw [sort, Document.ofEntries, Document.merge_nil]
  exact Document.distinct_lastGiven _

/-- A sort has a direction for each field. -/
theorem simple_sort (envelope : Envelope) : envelope.sort.Simple := by
  intro entry member
  rcases Document.mem_of_mem_merge member with none | given
  · exact absurd none List.not_mem_nil
  · rcases List.mem_map.mp given with ⟨known, -, rfl⟩
    rfl

end Envelope

/-! ## What comes back -/

/-- A document is written as a text, and another one is read back: the same
entries in the order of their names. -/
structure Reread (document back : Document) : Prop where
  read : Json.readDocument (Json.writeDocument document) = .ok back
  perm : back.Perm document
  increasing : Increasing back

/-- A sort that is read back compares all documents as before if the fields
that it looks at are the same as before; otherwise it does not. -/
structure RereadSort (sort back : Document) : Prop
    extends Reread sort back where
  alike : fieldsOf back = fieldsOf sort → ∀ left right : Document,
    left.compareBy right back = left.compareBy right sort
  apart : fieldsOf back ≠ fieldsOf sort → ∃ left right : Document,
    left.wellFormed = true ∧ right.wellFormed = true ∧
      left.compareBy right back ≠ left.compareBy right sort

/-- A command that is read back does the same as before in every database if it
begins with the same name; otherwise it has another result in each. -/
structure RereadCommand (command back : Document) : Prop
    extends Reread command back where
  alike : back.keys.head? = command.keys.head? →
    ∀ store : MemoryStore, store.runCommand back = store.runCommand command
  apart : back.keys.head? ≠ command.keys.head? → ∀ store : MemoryStore,
    (store.runCommand back).result ≠ (store.runCommand command).result

variable {document command : Document}

theorem reread_of_simple (simple : document.Simple)
    (distinct : document.Distinct) :
    Reread document document.inNameOrder where
  read := Json.readDocument_writeDocument simple distinct
  perm := Document.inNameOrder_perm document
  increasing := Document.increasing_inNameOrder distinct

theorem rereadSort (envelope : Envelope) :
    RereadSort envelope.sort envelope.sort.inNameOrder where
  toReread := reread_of_simple envelope.simple_sort envelope.distinct_sort
  alike same left right := by
    rw [compare_eq_compareBy_fieldsOf, compare_eq_compareBy_fieldsOf, same]
  apart different := by
    by_contra none
    refine different ((orderAlike_inNameOrder_iff envelope.distinct_sort).mp
      fun left right leftProper rightProper => ?_)
    rw [← compare_eq_compareBy_fieldsOf, ← compare_eq_compareBy_fieldsOf]
    by_contra unlike
    exact none ⟨left, right, leftProper, rightProper, unlike⟩

theorem rereadCommand (simple : command.Simple)
    (distinct : command.Distinct) :
    RereadCommand command command.inNameOrder := by
  have back := reread_of_simple simple distinct
  have simpleBack : command.inNameOrder.Simple := fun entry member =>
    simple entry (back.perm.subset member)
  exact { back with
    alike := fun same store =>
      MemoryStore.runCommand_eq_of_keys simple distinct back.perm same store
    apart := fun different store =>
      MemoryStore.result_runCommand_ne simple simpleBack different store }

namespace QueryBuilder

/-- The sort of a builder and a command with simple values come back from their
texts in the order of names, which may turn a sort around and make another
command of a command. -/
theorem reread_sort_and_command (builder : QueryBuilder)
    (simple : command.Simple) (distinct : command.Distinct) :
    RereadSort builder.snapshot.sort builder.snapshot.sort.inNameOrder ∧
      RereadCommand command command.inNameOrder :=
  ⟨rereadSort builder.envelope, rereadCommand simple distinct⟩

/-- A builder that sorts by two fields against the order of their names. -/
def sortedBackwards : QueryBuilder :=
  new.follow (.orderBy [("b", .ofInt 1), ("a", .ofInt 1)])

/-- A command with an entry that comes before it in the order of names. -/
def commented : Document := [("ping", .ofInt 1), ("a", .boolean true)]

theorem reread_backwards :
    (∃ back, Json.readDocument
        (Json.writeDocument sortedBackwards.snapshot.sort) = .ok back ∧
      ∃ left right : Document, left.compareBy right back ≠
        left.compareBy right sortedBackwards.snapshot.sort) ∧
    ∃ back, Json.readDocument (Json.writeDocument commented) = .ok back ∧
      ∀ store : MemoryStore, (store.runCommand back).result ≠
        (store.runCommand commented).result := by
  have simple : commented.Simple := by decide
  have distinct : commented.keys.Nodup := by decide
  rcases reread_sort_and_command sortedBackwards simple distinct with
    ⟨sort, command⟩
  have sortBack : sortedBackwards.snapshot.sort.inNameOrder =
      [("a", .ofInt 1), ("b", .ofInt 1)] :=
    Document.inNameOrder_eq (List.Perm.swap ..) (by decide)
  have commandBack : commented.inNameOrder =
      [("a", .boolean true), ("ping", .ofInt 1)] :=
    Document.inNameOrder_eq (List.Perm.swap ..) (by decide)
  constructor
  · have different : fieldsOf sortedBackwards.snapshot.sort.inNameOrder ≠
        fieldsOf sortedBackwards.snapshot.sort := by
      rw [sortBack]
      exact fun same => absurd (congrArg Document.keys same) (by decide)
    rcases sort.apart different with ⟨left, right, -, -, unlike⟩
    exact ⟨_, sort.read, left, right, unlike⟩
  · refine ⟨_, command.read, command.apart ?_⟩
    rw [commandBack]
    decide

end QueryBuilder

end DocQuery
