import DocQuery.Document.Path
import DocQuery.Value.Order

/-!
# Sorting documents

Documents are compared field by field.  Sorting is stable: a document is put
after the last one that it does not precede.

The comparison orders documents unless a string and a symbol meet under a
field of the sort: these two are equal whatever they hold.  Where it orders
them there is one stable sort, however it is computed.  Where it does not, the
sort of a library may deliver another order than the one here, or give up.
-/

namespace DocQuery

namespace Sorting

/-- How many fields of a sort are looked at. -/
def maxFields : Nat := 8

/-- Compare two fields; a missing one is below any value. -/
def compareFields : Option Value → Option Value → Ordering
  | some left, some right => left.compare right
  | some _, none => .gt
  | none, some _ => .lt
  | none, none => .eq

/-- Compare by the entries of a sort, first to last. -/
def compareBy (left right : Document) : Document → Ordering
  | [] => .eq
  | (field, direction) :: rest =>
    match compareFields (left.getPath? field) (right.getPath? field) with
    | .eq => compareBy left right rest
    | order => if direction.isBelowZero then order.swap else order

/-- Put an item into a list that is sorted from last to first, in front of
all items that do not come after it. -/
def insertLast {α : Type} (precedes : α → α → Bool) (item : α) :
    List α → List α
  | [] => [item]
  | last :: before =>
    if precedes item last then last :: insertLast precedes item before
    else item :: last :: before

/-- Sort by inserting the items one after the other. -/
def insertionSort {α : Type} (precedes : α → α → Bool) (items : List α) :
    List α :=
  (items.foldl (fun sorted item => insertLast precedes item sorted) []).reverse

theorem insertLast_perm {α : Type} (precedes : α → α → Bool) (item : α)
    (sorted : List α) :
    (insertLast precedes item sorted).Perm (item :: sorted) := by
  induction sorted with
  | nil => exact List.Perm.refl _
  | cons last before ih =>
    simp only [insertLast]
    split
    · exact (ih.cons last).trans (List.Perm.swap item last before)
    · exact List.Perm.refl _

theorem foldl_insertLast_perm {α : Type} (precedes : α → α → Bool)
    (items sorted : List α) :
    (items.foldl (fun sorted item => insertLast precedes item sorted)
      sorted).Perm (items ++ sorted) := by
  induction items generalizing sorted with
  | nil => exact List.Perm.refl _
  | cons item rest ih =>
    exact ((ih (insertLast precedes item sorted)).trans
      ((insertLast_perm precedes item sorted).append_left rest)).trans
      List.perm_middle

/-- Sorting neither loses nor adds an item. -/
theorem insertionSort_perm {α : Type} (precedes : α → α → Bool)
    (items : List α) : (insertionSort precedes items).Perm items := by
  have folded := foldl_insertLast_perm precedes items []
  rw [List.append_nil] at folded
  exact (List.reverse_perm _).trans folded

end Sorting

/-- Compare two documents by at most the first eight fields of a sort. -/
def Document.compareBy (left right sort : Document) : Ordering :=
  Sorting.compareBy left right (sort.take Sorting.maxFields)

/-- Sort documents; an empty sort keeps their order.  This stands for any
stable sort of a library, but only where the comparison orders the documents:
nothing is said of what a library makes of documents of which one holds a
string and another one a symbol under a field of the sort. -/
def Document.sortAll (sort : Document) (documents : List Document) :
    List Document :=
  if sort.isEmpty then documents
  else
    Sorting.insertionSort
      (fun left right => Document.compareBy left right sort == .lt) documents

end DocQuery
