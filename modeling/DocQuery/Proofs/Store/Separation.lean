import DocQuery.Proofs.Value.Agreement
import DocQuery.Store.Index
import Mathlib.Data.List.Pairwise

/-!
# Documents that an index keeps apart

A unique index keeps the documents of a collection apart: no two of them, at
different positions, have the same values at all of its paths.  Agreement of
well-formed documents turns around, so it is enough to compare every document
with the later ones, which is what the operations of a store do one way or
another.
-/

namespace DocQuery

/-- The value at a path, where a missing one counts as `null`. -/
def Document.valueAt (document : Document) (path : String) : Value :=
  (document.getPath? path).getD .null

theorem Document.wellFormed_valueAt {document : Document}
    (proper : document.wellFormed = true) (path : String) :
    (document.valueAt path).wellFormed = true := by
  unfold Document.valueAt
  cases found : document.getPath? path with
  | none => rfl
  | some value => exact Document.wellFormed_getPath? proper found

/-- Two documents have the same values at all paths of a key. -/
def AgreeOn (key left right : Document) : Prop :=
  ∀ entry ∈ key,
    (left.valueAt entry.1).agrees (right.valueAt entry.1) = true

/-- Every one of some documents is well formed. -/
def AllWellFormed (documents : List Document) : Prop :=
  ∀ document ∈ documents, document.wellFormed = true

@[simp]
theorem allWellFormed_nil : AllWellFormed [] := by
  intro document member
  simp at member

@[simp]
theorem allWellFormed_cons {document : Document} {rest : List Document} :
    AllWellFormed (document :: rest) ↔
      document.wellFormed = true ∧ AllWellFormed rest :=
  List.forall_mem_cons

theorem allWellFormed_append {first second : List Document} :
    AllWellFormed (first ++ second) ↔
      AllWellFormed first ∧ AllWellFormed second :=
  List.forall_mem_append

theorem AllWellFormed.sublist {part documents : List Document}
    (proper : AllWellFormed documents) (sublist : part.Sublist documents) :
    AllWellFormed part :=
  fun document member => proper document (sublist.subset member)

namespace Index

/-! ## Equal keys -/

theorem sameKey_iff {index : Index} {left right : Document} :
    index.sameKey left right = true ↔ AgreeOn index.key left right := by
  unfold sameKey keyValues
  rw [List.zip_map']
  simp [AgreeOn, Document.valueAt]

theorem sameKey_symm {index : Index} {left right : Document}
    (leftProper : left.wellFormed = true)
    (rightProper : right.wellFormed = true)
    (same : index.sameKey left right = true) :
    index.sameKey right left = true := by
  rw [sameKey_iff] at same ⊢
  intro entry member
  exact Value.agrees_symm (Document.wellFormed_valueAt leftProper entry.1)
    (Document.wellFormed_valueAt rightProper entry.1) (same entry member)

theorem sameKey_comm {index : Index} {left right : Document}
    (leftProper : left.wellFormed = true)
    (rightProper : right.wellFormed = true) :
    index.sameKey left right = index.sameKey right left := by
  rw [Bool.eq_iff_iff]
  exact ⟨sameKey_symm leftProper rightProper,
    sameKey_symm rightProper leftProper⟩

/-! ## Keeping apart -/

/-- No two documents at different positions have the same values at the paths
of an index. -/
def KeepsApart (index : Index) (documents : List Document) : Prop :=
  ∀ (first second : Nat) (left right : Document), first ≠ second →
    documents[first]? = some left → documents[second]? = some right →
      index.sameKey left right = false

/-- Every document differs from the later ones. -/
def LaterDiffer (index : Index) (documents : List Document) : Prop :=
  documents.Pairwise fun left right => index.sameKey left right = false

theorem keepsApart_iff_laterDiffer {index : Index}
    {documents : List Document} (proper : AllWellFormed documents) :
    index.KeepsApart documents ↔ index.LaterDiffer documents := by
  constructor
  · intro apart
    apply List.pairwise_iff_getElem.mpr
    intro first second firstBound secondBound before
    exact apart first second _ _ (Nat.ne_of_lt before)
      (List.getElem?_eq_getElem firstBound)
      (List.getElem?_eq_getElem secondBound)
  · intro differ first second left right different leftAt rightAt
    rcases List.getElem?_eq_some_iff.mp leftAt with ⟨firstBound, rfl⟩
    rcases List.getElem?_eq_some_iff.mp rightAt with ⟨secondBound, rfl⟩
    rcases Nat.lt_or_gt_of_ne different with before | after
    · exact List.pairwise_iff_getElem.mp differ _ _ firstBound secondBound
        before
    · rw [sameKey_comm (proper _ (List.getElem_mem firstBound))
        (proper _ (List.getElem_mem secondBound))]
      exact List.pairwise_iff_getElem.mp differ _ _ secondBound firstBound
        after

theorem KeepsApart.sublist {index : Index} {part documents : List Document}
    (apart : index.KeepsApart documents) (proper : AllWellFormed documents)
    (sublist : part.Sublist documents) : index.KeepsApart part := by
  rw [keepsApart_iff_laterDiffer proper] at apart
  rw [keepsApart_iff_laterDiffer (proper.sublist sublist)]
  exact List.Pairwise.sublist sublist apart

theorem keepsApart_nil (index : Index) : index.KeepsApart [] := by
  intro first second left right _ leftAt
  simp at leftAt

/-- A further document is kept apart from others that are kept apart when it
has the key of none of them. -/
theorem keepsApart_concat_iff {index : Index} {documents : List Document}
    {document : Document} (proper : AllWellFormed documents)
    (documentProper : document.wellFormed = true) :
    index.KeepsApart (documents ++ [document]) ↔
      index.KeepsApart documents ∧
        ∀ stored ∈ documents, index.sameKey stored document = false := by
  have allProper : AllWellFormed (documents ++ [document]) :=
    allWellFormed_append.mpr ⟨proper, by simpa using documentProper⟩
  rw [keepsApart_iff_laterDiffer proper, keepsApart_iff_laterDiffer allProper,
    LaterDiffer, LaterDiffer, List.pairwise_append]
  simp

/-- A document among others that are kept apart has the key of none of
them. -/
theorem KeepsApart.others_differ {index : Index}
    {before after : List Document} {document : Document}
    (apart : index.KeepsApart (before ++ document :: after))
    (proper : AllWellFormed (before ++ document :: after)) :
    ∀ stored ∈ before ++ after, index.sameKey stored document = false := by
  rw [keepsApart_iff_laterDiffer proper, LaterDiffer, List.pairwise_append,
    List.pairwise_cons] at apart
  rcases apart with ⟨-, ⟨laterDiffer, -⟩, earlierDiffer⟩
  intro stored member
  rcases List.mem_append.mp member with earlier | later
  · exact earlierDiffer stored earlier document List.mem_cons_self
  · rw [sameKey_comm (proper stored (by simp [later]))
      (proper document (by simp))]
    exact laterDiffer stored later

/-! ## What the checks of a store say -/

theorem separates_iff {index : Index} {documents : List Document} :
    index.separates documents = true ↔ index.LaterDiffer documents := by
  induction documents with
  | nil => simp [separates, LaterDiffer]
  | cons document rest ih =>
      simp only [LaterDiffer] at ih
      simp [separates, LaterDiffer, ih]

theorem clashes_eq_true_iff {index : Index} {others : List Document}
    {document : Document} :
    index.clashes others document = true ↔
      index.unique = true ∧
        ∃ stored ∈ others, index.sameKey stored document = true := by
  simp [clashes]

theorem checkAll_eq_ok_iff {indexes : List Index} {others : List Document}
    {document : Document} :
    checkAll indexes others document = .ok () ↔
      ∀ index ∈ indexes, index.unique = true →
        ∀ stored ∈ others, index.sameKey stored document = false := by
  unfold checkAll
  split
  · next index found =>
      have clash := List.find?_some found
      simp only [reduceCtorEq, false_iff]
      intro differ
      rcases clashes_eq_true_iff.mp clash with ⟨unique, stored, member, same⟩
      have different := differ index (List.mem_of_find?_eq_some found) unique
        stored member
      simp [same] at different
  · next absent =>
      simp only [true_iff]
      intro index member unique stored storedMember
      by_contra same
      have clash : index.clashes others document = true :=
        clashes_eq_true_iff.mpr
          ⟨unique, stored, storedMember, by simpa using same⟩
      exact List.find?_eq_none.mp absent index member clash

theorem exists_of_checkAll_eq_error {indexes : List Index}
    {others : List Document} {document : Document} {failure : StoreError}
    (refused : checkAll indexes others document = .error failure) :
    ∃ index ∈ indexes, failure = index.duplicateKey ∧ index.unique = true ∧
      ∃ stored ∈ others, index.sameKey stored document = true := by
  unfold checkAll at refused
  split at refused
  · next index found =>
      have clash := List.find?_some found
      rcases Except.error.inj refused with rfl
      exact ⟨index, List.mem_of_find?_eq_some found, rfl,
        clashes_eq_true_iff.mp clash⟩
  · exact absurd refused (by simp)

end Index

end DocQuery
