import DocQuery.Cursor

/-!
# Readings of a cursor

A cursor is read by asking whether another document is left and by having the
next one delivered, in any mixture, and in the end the rest is collected or
counted.  The first reading makes the page, whichever it is, and all of them
share one position.

One reading does to the documents that are left what it would do to a list of
them: it looks at the list, or takes the first of it away.  What comes of any
sequence of readings follows by induction.
-/

namespace DocQuery.Cursor

/-- A way to read a cursor. -/
inductive Reading where
  | hasNext
  | advance
  | next

/-- What is learned from a reading. -/
inductive Reading.Answer where
  /-- Whether another document is left. -/
  | left (another : Bool)
  /-- The next document, if there was one. -/
  | delivered (document : Option Document)

namespace Reading

/-- The document that an answer hands out. -/
def Answer.document? : Answer → Option Document
  | .left _ => none
  | .delivered document => document

/-- What a list of documents answers. -/
def answerOf (documents : List Document) : Reading → Answer
  | .hasNext => .left !documents.isEmpty
  | .advance | .next => .delivered documents.head?

/-- What a reading leaves of a list of documents. -/
def restOf (documents : List Document) : Reading → List Document
  | .hasNext => documents
  | .advance | .next => documents.tail

/-- A reading hands out what it takes away. -/
theorem document?_append_restOf (documents : List Document)
    (reading : Reading) :
    (reading.answerOf documents).document?.toList ++
      reading.restOf documents = documents := by
  cases reading <;> cases documents <;> rfl

end Reading

open Reading (Answer)

/-- Read a cursor once. -/
def read (cursor : Cursor) : Reading → Answer × Cursor
  | .hasNext => (.left cursor.look.1, cursor.look.2)
  | .advance => (.delivered cursor.advance.1, cursor.advance.2)
  | .next => (.delivered cursor.next.1, cursor.next.2)

/-- Read a cursor again and again. -/
def readAll (cursor : Cursor) : List Reading → List Answer × Cursor
  | [] => ([], cursor)
  | reading :: rest =>
    let (answer, next) := cursor.read reading
    let (answers, last) := next.readAll rest
    (answer :: answers, last)

/-- The documents that readings hand out, in order. -/
def handedOut (cursor : Cursor) (readings : List Reading) : List Document :=
  (cursor.readAll readings).1.filterMap Answer.document?

/-- The cursor after readings. -/
def after (cursor : Cursor) (readings : List Reading) : Cursor :=
  (cursor.readAll readings).2

/-! ## One reading -/

theorem look_fst (cursor : Cursor) :
    cursor.look.1 = !cursor.toList.isEmpty := by
  rw [Bool.eq_iff_iff]
  simp [look, toList]

/-- A reading answers as the list of the documents that are left. -/
theorem read_fst (cursor : Cursor) (reading : Reading) :
    (cursor.read reading).1 = reading.answerOf cursor.toList := by
  cases reading with
  | hasNext => exact congrArg Answer.left (look_fst cursor)
  | advance | next => exact congrArg Answer.delivered (advance_fst cursor)

/-- A reading leaves what it would leave of the list of those documents. -/
theorem toList_read (cursor : Cursor) (reading : Reading) :
    (cursor.read reading).2.toList = reading.restOf cursor.toList := by
  cases reading with
  | hasNext => exact toList_prepare cursor
  | advance | next => exact (toList_advance cursor).trans List.drop_one

/-! ## Runs of readings -/

theorem handedOut_cons (cursor : Cursor) (reading : Reading)
    (rest : List Reading) :
    cursor.handedOut (reading :: rest) =
      (cursor.read reading).1.document?.toList ++
        (cursor.read reading).2.handedOut rest := by
  simp only [handedOut, readAll, List.filterMap_cons]
  cases (cursor.read reading).1.document? <;> rfl

theorem after_cons (cursor : Cursor) (reading : Reading)
    (rest : List Reading) :
    cursor.after (reading :: rest) = (cursor.read reading).2.after rest := rfl

/-- What was handed out and what is left make up what there was. -/
theorem handedOut_append_toList_after (cursor : Cursor)
    (readings : List Reading) :
    cursor.handedOut readings ++ (cursor.after readings).toList =
      cursor.toList := by
  induction readings generalizing cursor with
  | nil => rfl
  | cons reading rest ih =>
      rw [handedOut_cons, after_cons, List.append_assoc, ih, toList_read,
        read_fst, Reading.document?_append_restOf]

theorem after_append (cursor : Cursor) (first second : List Reading) :
    cursor.after (first ++ second) = (cursor.after first).after second := by
  induction first generalizing cursor with
  | nil => rfl
  | cons reading rest ih => exact ih (cursor.read reading).2

theorem toList_after_of_toList_eq_nil {cursor : Cursor}
    (spent : cursor.toList = []) (readings : List Reading) :
    (cursor.after readings).toList = [] := by
  have whole := cursor.handedOut_append_toList_after readings
  rw [spent] at whole
  exact (List.append_eq_nil_iff.mp whole).2

/-- Asking whether a document is left delivers none. -/
theorem toList_after_replicate_hasNext (cursor : Cursor) (looks : Nat) :
    (cursor.after (List.replicate looks .hasNext)).toList = cursor.toList := by
  induction looks generalizing cursor with
  | zero => rfl
  | succ looks ih =>
      rw [List.replicate_succ, after_cons, ih, toList_read, Reading.restOf]

/-! ## The rest -/

theorem advance_fst_eq_none_iff {cursor : Cursor} :
    cursor.advance.1 = none ↔ cursor.toList = [] := by
  rw [advance_fst, List.head?_eq_none_iff]

/-- Delivering documents until there is none delivers all that are left. -/
theorem count_eq (cursor : Cursor) : cursor.count = cursor.toList.length := by
  fun_induction count cursor with
  | case1 cursor last advanced =>
      have none_left : cursor.advance.1 = none := congrArg Prod.fst advanced
      rw [advance_fst_eq_none_iff.mp none_left, List.length_nil]
  | case2 cursor document rest advanced ih =>
      have first : cursor.toList.head? = some document :=
        (advance_fst cursor).symm.trans (congrArg Prod.fst advanced)
      have others : rest.toList = cursor.toList.drop 1 :=
        (congrArg (fun step => step.2.toList) advanced).symm.trans
          (toList_advance cursor)
      have left := List.length_pos_of_mem (List.mem_of_mem_head? first)
      rw [ih, others, List.length_drop]
      omega

/-- What the readings of a cursor come to, and what the cursor does after
them. -/
structure ReadingLaws (cursor : Cursor) (readings : List Reading) : Prop where
  /-- Every document is delivered once, on its own or with the rest. -/
  delivered : cursor.handedOut readings ++ (cursor.after readings).toList =
    cursor.toList
  counted : (cursor.after readings).count =
    cursor.toList.length - (cursor.handedOut readings).length
  /-- Whether a document is left is told as the next delivery turns out, however
  often it was asked before. -/
  foretold (looks : Nat) : (cursor.after readings).look.1 =
    (cursor.after (readings ++ List.replicate looks .hasNext)).advance.1.isSome
  /-- After the last document there is none, however the cursor is read. -/
  ended : (cursor.after readings).advance.1 = none → ∀ more,
    (cursor.after (readings ++ more)).advance.1 = none

/-- However a cursor is read, whatever its documents and however they are shaped
into a page, the page is delivered once and in order. -/
theorem readingLaws_of_cursor (cursor : Cursor) (readings : List Reading) :
    ReadingLaws cursor readings where
  delivered := cursor.handedOut_append_toList_after readings
  counted := by
    rw [count_eq, ← cursor.handedOut_append_toList_after readings,
      List.length_append, Nat.add_sub_cancel_left]
  foretold looks := by
    rw [after_append, look_fst, advance_fst, toList_after_replicate_hasNext]
    cases (cursor.after readings).toList <;> rfl
  ended spent more := by
    rw [advance_fst_eq_none_iff] at spent ⊢
    rw [after_append]
    exact toList_after_of_toList_eq_nil spent more

/-- Two documents in descending order, the first of them delivered between two
questions whether there is another one. -/
example :
    let cursor := (ofDocuments [[("n", .ofInt 1)], [("n", .ofInt 2)]]).sorted
      [("n", .ofInt (-1))]
    cursor.handedOut [.hasNext, .next, .hasNext] = [[("n", .ofInt 2)]] ∧
      (cursor.after [.hasNext, .next, .hasNext]).toList =
        [[("n", .ofInt 1)]] :=
  ⟨rfl, rfl⟩

end DocQuery.Cursor
