import DocQuery.Projection
import DocQuery.Sorting

/-!
# Cursors

A cursor delivers a page of documents: sorted, cut to a range of positions and
projected.  The page is made by the first reading, whichever it is, and takes
the place of the documents that were found.  Reading moves the cursor forward
one document at a time.
-/

namespace DocQuery

/-- Documents, how they are shaped into a page, and how many of the page have
been delivered. -/
structure Cursor where
  /-- The documents found, or the page once it was made of them. -/
  documents : List Document
  /-- The sort, empty for none. -/
  sort : Document
  /-- How many sorted documents are passed over. -/
  skip : Nat
  /-- How many documents the page holds at most; zero for no bound. -/
  limit : Nat
  /-- What is shown of each document. -/
  projection : Document
  /-- How many documents of the page have been delivered. -/
  delivered : Nat
  /-- The page was made. -/
  prepared : Bool
  deriving Inhabited

namespace Cursor

/-- A cursor over all documents as they are. -/
def ofDocuments (documents : List Document) : Cursor :=
  ⟨documents, [], 0, 0, [], 0, false⟩

/-- Show only a part of each document. -/
def projected (cursor : Cursor) (projection : Document) : Cursor :=
  { cursor with projection := projection }

/-- Sort the documents. -/
def sorted (cursor : Cursor) (sort : Document) : Cursor :=
  { cursor with sort := sort }

/-- Pass over some documents. -/
def skipping (cursor : Cursor) (count : Nat) : Cursor :=
  { cursor with skip := count }

/-- Bound the page; zero removes the bound. -/
def limited (cursor : Cursor) (count : Nat) : Cursor :=
  { cursor with limit := count }

/-- The whole page of the documents found. -/
def page (cursor : Cursor) : List Document :=
  let rest := (Document.sortAll cursor.sort cursor.documents).drop cursor.skip
  let cut := if cursor.limit = 0 then rest else rest.take cursor.limit
  cut.map fun document => document.project cursor.projection

/-- Make the page unless it was made before. -/
def prepare (cursor : Cursor) : Cursor :=
  if cursor.prepared then cursor
  else { cursor with documents := cursor.page, prepared := true }

/-- The documents not yet delivered. -/
def toList (cursor : Cursor) : List Document :=
  let ready := cursor.prepare
  ready.documents.drop ready.delivered

/-- Whether another document is left. -/
def look (cursor : Cursor) : Bool × Cursor :=
  let ready := cursor.prepare
  (decide (ready.delivered < ready.documents.length), ready)

/-- Another document is left. -/
def hasNext (cursor : Cursor) : Bool := cursor.look.1

/-- Deliver the next document. -/
def advance (cursor : Cursor) : Option Document × Cursor :=
  let ready := cursor.prepare
  match ready.documents[ready.delivered]? with
  | none => (none, ready)
  | some document =>
    (some document, { ready with delivered := ready.delivered + 1 })

/-- A cursor as a sequence of documents: the next one is delivered. -/
def next (cursor : Cursor) : Option Document × Cursor := cursor.advance

@[simp]
theorem prepared_prepare (cursor : Cursor) :
    cursor.prepare.prepared = true := by
  unfold prepare
  split <;> simp_all

theorem prepare_of_prepared {cursor : Cursor}
    (ready : cursor.prepared = true) : cursor.prepare = cursor := by
  rw [prepare, if_pos ready]

@[simp]
theorem toList_prepare (cursor : Cursor) :
    cursor.prepare.toList = cursor.toList := by
  simp only [toList, prepare_of_prepared (prepared_prepare cursor)]

@[simp]
theorem toList_ofDocuments (documents : List Document) :
    (ofDocuments documents).toList = documents := by
  simp [ofDocuments, toList, prepare, page, Document.sortAll]

theorem toList_advance (cursor : Cursor) :
    cursor.advance.2.toList = cursor.toList.drop 1 := by
  simp only [advance]
  split
  · next ended =>
    have spent : cursor.toList = [] :=
      List.drop_eq_nil_of_le (List.getElem?_eq_none_iff.mp ended)
    simp [spent]
  · next document found =>
    have ready : ({ cursor.prepare with
        delivered := cursor.prepare.delivered + 1 } : Cursor).prepared =
          true := prepared_prepare cursor
    simp only [toList, prepare_of_prepared ready, List.drop_drop]

theorem advance_fst (cursor : Cursor) :
    cursor.advance.1 = cursor.toList.head? := by
  simp only [advance, toList, List.head?_drop]
  split <;> simp_all

theorem length_toList_lt_of_advance {cursor rest : Cursor}
    {document : Document} (advanced : cursor.advance = (some document, rest)) :
    rest.toList.length < cursor.toList.length := by
  have first := advance_fst cursor
  have behind := toList_advance cursor
  rw [advanced] at first behind
  have left := List.length_pos_of_mem (List.mem_of_mem_head? first.symm)
  rw [behind, List.length_drop]
  omega

/-- How many documents are left: they are delivered until there is none. -/
def count (cursor : Cursor) : Nat :=
  match advanced : cursor.next with
  | (none, _) => 0
  | (some _, rest) => rest.count + 1
termination_by cursor.toList.length
decreasing_by exact length_toList_lt_of_advance advanced

end Cursor

end DocQuery
