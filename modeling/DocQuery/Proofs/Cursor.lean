import DocQuery.Cursor
import DocQuery.Proofs.Sorting

/-!
# Pages of cursors

A page is cut out of the sorted documents: those before a position are passed
over, and of the rest at most a given number is shown, or all of them where
that number is zero.  The sorted documents are the found ones in an order in
which no document comes after a later one and in which equal documents stand
as they were found.  This needs that no document holds a symbol under a path
of the sort, for strings and symbols are in no order together.
-/

namespace DocQuery.Cursor

/-- The documents of a page before they are projected. -/
def window {α : Type} (skip limit : Nat) (items : List α) : List α :=
  if limit = 0 then items.drop skip else (items.drop skip).take limit

theorem map_window {α β : Type} (image : α → β) (skip limit : Nat)
    (items : List α) :
    (window skip limit items).map image =
      window skip limit (items.map image) := by
  unfold window
  split <;> simp

theorem toList_shaped (documents : List Document) (sort projection : Document)
    (skip limit : Nat) :
    (((((ofDocuments documents).projected projection).sorted sort).skipping
      skip).limited limit).toList =
      window skip limit ((Document.sortAll sort documents).map
        (·.project projection)) :=
  map_window _ skip limit _

theorem getElem?_window {α : Type} (skip limit : Nat) (items : List α)
    (position : Nat) :
    (window skip limit items)[position]? =
      if limit = 0 ∨ position < limit then items[skip + position]?
      else none := by
  unfold window
  by_cases unbounded : limit = 0
  · simp [unbounded]
  · simp [unbounded, List.getElem?_take]

theorem length_window {α : Type} (skip limit : Nat) (items : List α) :
    (window skip limit items).length =
      if limit = 0 then items.length - skip
      else min limit (items.length - skip) := by
  unfold window
  split <;> simp

/-- A page shows, from a position on, at most so many of the documents in
sorted order, however many fields are sorted by and whatever their directions.
Documents are in an order by such a sort, and equal ones stand as they were
found. -/
theorem toList_stablySorted (documents : List Document)
    (sort projection : Document) (skip limit : Nat)
    (plain : ∀ document ∈ documents, document.FreeOfSymbols sort) :
    Sorting.Orders (fun left right => Document.compareBy left right sort)
        (Document.FreeOfSymbols · sort) ∧
      ∃ placed, Sorting.StablySorted
          (fun left right => Document.compareBy left right sort) documents
          placed ∧
        ∀ position,
          (((((ofDocuments documents).projected projection).sorted
            sort).skipping skip).limited limit).toList[position]? =
            if limit = 0 ∨ position < limit then
              placed[skip + position]?.map fun found =>
                found.1.project projection
            else
              none := by
  refine ⟨Sorting.orders_compareBy sort, ?_⟩
  rcases Document.isStableSort_sortAll plain with
    ⟨placed, stablySorted, sorted⟩
  refine ⟨placed, stablySorted, fun position => ?_⟩
  rw [toList_shaped, sorted, getElem?_window]
  simp [Function.comp_def]

/-- Four documents, of which two have equal numbers and one has none. -/
def numberedDocuments : List Document :=
  [[("n", .ofInt 1), ("k", .string "b")], [("k", .string "d")],
    [("n", .ofInt 2), ("k", .string "a")],
    [("n", .double (.ofInt 1)), ("k", .string "c")]]

/-- From the greatest number down, the second and the third document are those
with equal numbers, as they were found; the one without a number is last. -/
theorem toList_stablySorted_descending :
    (∃ placed, Sorting.StablySorted
        (fun left right => Document.compareBy left right [("n", .ofInt (-1))])
        numberedDocuments placed ∧
      some [("k", .string "b")] = placed[1]?.map fun found =>
        found.1.project [("k", .ofInt 1)]) ∧
      (((((ofDocuments numberedDocuments).projected
        [("k", .ofInt 1)]).sorted [("n", .ofInt (-1))]).skipping 1).limited
        2).toList = [[("k", .string "b")], [("k", .string "c")]] := by
  have plain : ∀ document ∈ numberedDocuments,
      document.FreeOfSymbols [("n", .ofInt (-1))] := by decide +kernel
  rcases (toList_stablySorted numberedDocuments [("n", .ofInt (-1))]
    [("k", .ofInt 1)] 1 2 plain).2 with ⟨placed, stablySorted, positions⟩
  exact ⟨⟨placed, stablySorted, positions 0⟩, rfl⟩

end DocQuery.Cursor
