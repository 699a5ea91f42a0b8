import DocQuery.Document.Path
import Mathlib.Data.List.Nodup

/-!
# Well-formed values

Documents are lists of entries, but only those lists stand for documents in
which no name occurs twice.  This module asks that of every document within a
value and shows that reading and writing along paths keep it.

A value that is not well formed can equal another one which does not equal it,
so every statement on equal keys rests on the lemmas below.
-/

namespace DocQuery

/-! ## The predicate -/

mutual

/-- In no document within a value does a name occur twice. -/
def Value.wellFormed : Value → Bool
  | .scopedCode _ scope =>
      decide (Document.keys scope).Nodup && Value.entriesWellFormed scope
  | .array items => Value.itemsWellFormed items
  | .document entries =>
      decide (Document.keys entries).Nodup && Value.entriesWellFormed entries
  | _ => true

/-- All items of a list are well formed. -/
def Value.itemsWellFormed : List Value → Bool
  | [] => true
  | item :: rest => item.wellFormed && Value.itemsWellFormed rest

/-- The values of all entries are well formed. -/
def Value.entriesWellFormed : List (String × Value) → Bool
  | [] => true
  | (_, value) :: rest => value.wellFormed && Value.entriesWellFormed rest

end

/-- A document that is well formed as a value. -/
def Document.wellFormed (document : Document) : Bool :=
  (Value.document document).wellFormed

theorem Value.itemsWellFormed_iff {items : List Value} :
    Value.itemsWellFormed items = true ↔
      ∀ item ∈ items, item.wellFormed = true := by
  induction items with
  | nil => simp [Value.itemsWellFormed]
  | cons item rest ih => simp [Value.itemsWellFormed, ih]

theorem Value.entriesWellFormed_iff {entries : List (String × Value)} :
    Value.entriesWellFormed entries = true ↔
      ∀ entry ∈ entries, entry.2.wellFormed = true := by
  induction entries with
  | nil => simp [Value.entriesWellFormed]
  | cons entry rest ih => simp [Value.entriesWellFormed, ih]

@[simp]
theorem Value.wellFormed_document (entries : Document) :
    (Value.document entries).wellFormed = entries.wellFormed := rfl

theorem Value.wellFormed_array {items : List Value} :
    (Value.array items).wellFormed = true ↔
      ∀ item ∈ items, item.wellFormed = true := by
  rw [Value.wellFormed, Value.itemsWellFormed_iff]

namespace Document

theorem wellFormed_iff {document : Document} :
    document.wellFormed = true ↔
      document.Distinct ∧
        ∀ entry ∈ document, entry.2.wellFormed = true := by
  simp [wellFormed, Value.wellFormed, Distinct, Value.entriesWellFormed_iff]

@[simp]
theorem wellFormed_nil : wellFormed [] = true := rfl

/-! ## Reading and writing one name -/

theorem mem_of_get? {document : Document} {name : String} {value : Value}
    (found : document.get? name = some value) :
    (name, value) ∈ document := by
  induction document with
  | nil => simp at found
  | cons entry rest ih =>
      rcases entry with ⟨key, old⟩
      by_cases same : key = name
      · simp only [get?_cons, same, if_true, Option.some.injEq] at found
        simp [same, found]
      · simp only [get?_cons, same, if_false] at found
        exact List.mem_cons_of_mem _ (ih found)

/-- With distinct names an entry is what reading its name gives. -/
theorem get?_of_mem {document : Document} {name : String} {value : Value}
    (distinct : document.Distinct) (member : (name, value) ∈ document) :
    document.get? name = some value := by
  induction document with
  | nil => simp at member
  | cons entry rest ih =>
      rcases entry with ⟨key, old⟩
      simp only [Distinct, keys, List.map_cons, List.nodup_cons] at distinct
      rcases List.mem_cons.mp member with first | later
      · simp only [Prod.mk.injEq] at first
        simp [get?_cons, first]
      · have different : key ≠ name := by
          rintro rfl
          exact distinct.1 (List.mem_map_of_mem later)
        rw [get?_cons, if_neg different]
        exact ih distinct.2 later

theorem wellFormed_of_get? {document : Document} {name : String}
    {value : Value} (proper : document.wellFormed = true)
    (found : document.get? name = some value) : value.wellFormed = true :=
  (wellFormed_iff.mp proper).2 _ (mem_of_get? found)

/-- Part of a document, in the same order, is well formed as well. -/
theorem wellFormed_of_sublist {part document : Document}
    (proper : document.wellFormed = true) (sublist : part.Sublist document) :
    part.wellFormed = true := by
  rcases wellFormed_iff.mp proper with ⟨distinct, values⟩
  refine wellFormed_iff.mpr ⟨?_, ?_⟩
  · exact List.Nodup.sublist (sublist.map Prod.fst) distinct
  · intro entry member
    exact values entry (sublist.subset member)

theorem mem_insert {document : Document} {name : String} {value : Value}
    {entry : String × Value} (member : entry ∈ document.insert name value) :
    entry = (name, value) ∨ entry ∈ document := by
  induction document with
  | nil => exact Or.inl (by simpa [insert] using member)
  | cons first rest ih =>
      rcases first with ⟨key, old⟩
      by_cases same : key = name
      · simp only [insert, same, if_true, List.mem_cons] at member
        rcases member with new | later
        · exact Or.inl new
        · exact Or.inr (List.mem_cons_of_mem _ later)
      · simp only [insert, same, if_false, List.mem_cons] at member
        rcases member with kept | later
        · exact Or.inr (by simp [kept])
        · rcases ih later with new | old
          · exact Or.inl new
          · exact Or.inr (List.mem_cons_of_mem _ old)

theorem wellFormed_insert {document : Document} {value : Value}
    (proper : document.wellFormed = true) (name : String)
    (valueProper : value.wellFormed = true) :
    (document.insert name value).wellFormed = true := by
  rcases wellFormed_iff.mp proper with ⟨distinct, values⟩
  refine wellFormed_iff.mpr ⟨distinct_insert distinct name value, ?_⟩
  intro entry member
  rcases mem_insert member with rfl | old
  · exact valueProper
  · exact values entry old

theorem erase_sublist (document : Document) (name : String) :
    (document.erase name).Sublist document := by
  induction document with
  | nil => exact List.Sublist.refl _
  | cons entry rest ih =>
      rcases entry with ⟨key, value⟩
      by_cases same : key = name
      · simp [erase, same]
      · simpa [erase, same] using ih

theorem wellFormed_erase {document : Document}
    (proper : document.wellFormed = true) (name : String) :
    (document.erase name).wellFormed = true :=
  wellFormed_of_sublist proper (erase_sublist document name)

/-- A name that a document does not have may stand before its entries. -/
theorem wellFormed_cons {document : Document} {name : String} {value : Value}
    (proper : document.wellFormed = true)
    (valueProper : value.wellFormed = true)
    (absent : document.get? name = none) :
    wellFormed ((name, value) :: document) = true := by
  rcases wellFormed_iff.mp proper with ⟨distinct, values⟩
  refine wellFormed_iff.mpr ⟨?_, ?_⟩
  · exact List.nodup_cons.mpr ⟨get?_eq_none_iff.mp absent, distinct⟩
  · intro entry member
    rcases List.mem_cons.mp member with rfl | old
    · exact valueProper
    · exact values entry old

/-! ## Reading and writing along paths -/

theorem wellFormed_subdocument {document : Document}
    (proper : document.wellFormed = true) (name : String) :
    (document.subdocument name).wellFormed = true := by
  unfold subdocument
  split
  · next entries found =>
      simpa using wellFormed_of_get? proper found
  · rfl

theorem wellFormed_follow? {names : List String} {document : Document}
    {value : Value} (proper : document.wellFormed = true)
    (found : follow? names document = some value) :
    value.wellFormed = true := by
  induction names generalizing document with
  | nil => simp [follow?] at found
  | cons name rest ih =>
      cases rest with
      | nil => exact wellFormed_of_get? proper found
      | cons next others =>
          simp only [follow?] at found
          split at found
          · next entries inner =>
              have entriesProper := wellFormed_of_get? proper inner
              exact ih entriesProper found
          · simp at found

theorem wellFormed_place {names : List String} {value : Value}
    {document : Document} (proper : document.wellFormed = true)
    (valueProper : value.wellFormed = true) :
    (place names value document).wellFormed = true := by
  induction names generalizing document with
  | nil => exact proper
  | cons name rest ih =>
      cases rest with
      | nil => exact wellFormed_insert proper name valueProper
      | cons next others =>
          exact wellFormed_insert proper name
            (ih (wellFormed_subdocument proper name))

theorem wellFormed_remove {names : List String} {document : Document}
    (proper : document.wellFormed = true) :
    (remove names document).wellFormed = true := by
  induction names generalizing document with
  | nil => exact proper
  | cons name rest ih =>
      cases rest with
      | nil => exact wellFormed_erase proper name
      | cons next others =>
          exact wellFormed_insert proper name
            (ih (wellFormed_subdocument proper name))

theorem wellFormed_getPath? {document : Document} {path : String}
    {value : Value} (proper : document.wellFormed = true)
    (found : document.getPath? path = some value) :
    value.wellFormed = true := by
  unfold getPath? at found
  split at found
  · exact wellFormed_follow? proper found
  · simp at found

theorem wellFormed_setPath {document : Document} {value : Value}
    (proper : document.wellFormed = true) (path : String)
    (valueProper : value.wellFormed = true) :
    (document.setPath path value).wellFormed = true :=
  wellFormed_place proper valueProper

theorem wellFormed_unsetPath {document : Document}
    (proper : document.wellFormed = true) (path : String) :
    (document.unsetPath path).wellFormed = true := by
  unfold unsetPath
  split
  · exact wellFormed_remove proper
  · exact proper

end Document

end DocQuery
