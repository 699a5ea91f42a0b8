import DocQuery.Proofs.Filter.Flaw
import DocQuery.Proofs.Store.Idle

/-!
# Filters with flaws

A filter with a flaw can be taken or turned away, and which of the two depends
on the documents of the collection.  The filter is evaluated on every one of
them, in order, and as soon as the evaluation comes to a flaw, every operation
fails for it and all documents stay.  Where it comes to no flaw the filter is
as good as any other.

A flaw that nothing is tried before is found on every document; a flaw behind
other parts is found by some documents only.
-/

namespace DocQuery

open Store (Call)

/-- A filter cannot be evaluated on all documents: the first on which it cannot
be gives the failure. -/
theorem Marked.ofFilter_eq_error_iff {filter : Document}
    {documents : List Document} {failure : StoreError} :
    ofFilter filter documents = .error failure ↔
      ∃ before document after, documents = before ++ document :: after ∧
        (∀ earlier ∈ before, ∃ met, earlier.meets filter = .ok met) ∧
        document.meets filter = .error failure := by
  constructor
  · intro failed
    induction documents with
    | nil => cases failed
    | cons document rest ih =>
        simp only [ofFilter, bind, bind_eq_error_iff] at failed
        rcases failed with here | ⟨met, here, later | ⟨marked, -, made⟩⟩
        · exact ⟨[], document, rest, rfl, by simp, here⟩
        · rcases ih later with ⟨before, bad, after, rfl, passed, last⟩
          exact ⟨document :: before, bad, after, rfl,
            List.forall_mem_cons.mpr ⟨⟨met, here⟩, passed⟩, last⟩
        · cases made
  · rintro ⟨before, document, after, rfl, passed, failed⟩
    induction before with
    | nil => simp [ofFilter, bind, Except.bind, failed]
    | cons earlier others ih =>
        rcases List.forall_mem_cons.mp passed with ⟨⟨met, here⟩, later⟩
        simp [ofFilter, bind, Except.bind, here, ih later]

theorem Collection.find_eq_error_iff {collection : Collection}
    {filter : Document} {failure : StoreError} :
    collection.find filter = .error failure ↔
      Marked.ofFilter filter collection.documents = .error failure := by
  simp only [find, bind, bind_eq_error_iff]
  constructor
  · rintro (failed | ⟨marked, -, made⟩)
    · exact failed
    · cases made
  · exact Or.inl

namespace MemoryStore

variable {store : MemoryStore} {name : String} {filter : Document}
  {failure : StoreError}

theorem select_eq_error_iff :
    store.select name filter = .error failure ↔
      ∃ before document after,
        store.documents name = before ++ document :: after ∧
        (∀ earlier ∈ before, ∃ met, earlier.meets filter = .ok met) ∧
        document.meets filter = .error failure := by
  rw [select_eq_find, documents_eq_target, Collection.find_eq_error_iff,
    Marked.ofFilter_eq_error_iff]

/-- A filter is turned away from a collection: a search with it and all other
operations fail for one reason, and the documents stay as they are. -/
structure TurnsAway (store : MemoryStore) (name : String) (filter : Document)
    (failure : StoreError) : Prop where
  searched (projection : Document) :
    (store.answer (.find name filter projection)).result = .error failure
  refused : store.Refuses name filter failure
  keptByUpdate (change options : Document) :
    (store.answer (.update name filter change options)).state.documents name =
      store.documents name
  keptByRemoval (options : Document) :
    (store.answer (.remove name filter options)).state.documents name =
      store.documents name

/-- A call that fails leaves the documents of every collection as they
were. -/
theorem documents_of_failure {call : Call} {collection : Collection}
    (there : store.get? name = some collection)
    (failed : (store.answer call).result = .error failure) :
    (store.answer call).state.documents name = store.documents name := by
  rw [documents, documents, collection_kept_of_failure failed there, there]

theorem turnsAway_iff :
    store.TurnsAway name filter failure ↔
      store.select name filter = .error failure := by
  constructor
  · intro away
    exact map_eq_error_iff.mp (away.searched [])
  · intro failed
    have refused := refuses_of_select failed
    cases there : store.get? name with
    | none => rw [select, there] at failed; cases failed
    | some collection =>
        constructor
        · intro projection
          exact map_eq_error_iff.mpr failed
        · exact refused
        · intro change options
          exact documents_of_failure there (refused.updated change options)
        · intro options
          exact documents_of_failure there (refused.removed options)

end MemoryStore

namespace Filter

open MemoryStore

/-- A filter without a flaw on a document is evaluated on it. -/
theorem exists_meets_iff {document filter : Document} :
    (∃ met, document.meets filter = .ok met) ↔
      ∀ failure, ¬ Flaw (.on document) filter failure := by
  simp only [← meets_eq_error_iff]
  cases document.meets filter <;> simp

/-- Which flaws of a filter count does not go beyond the evaluation on the
documents at hand. -/
structure FlawLaws (filter : Document) : Prop where
  /-- A filter fails on a document exactly as a flaw says that the evaluation
  on this document comes to. -/
  failed (document : Document) (failure : StoreError) :
    document.meets filter = .error failure ↔
      Flaw (.on document) filter failure
  /-- Without any flaw a filter fails on no document. -/
  flawless (none : ∀ failure, ¬ Flaw .anywhere filter failure)
    (document : Document) : ∃ met, document.meets filter = .ok met
  /-- With a flaw that nothing is tried before it fails on all of them. -/
  foremost {failure : StoreError} (flaw : Flaw .atOnce filter failure)
    (document : Document) : document.meets filter = .error failure
  /-- A store turns a filter away for the flaw that is found on the first
  document on which one is found. -/
  turnedAway (store : MemoryStore) (name : String) (failure : StoreError) :
    store.TurnsAway name filter failure ↔
      ∃ before document after,
        store.documents name = before ++ document :: after ∧
        (∀ earlier ∈ before, ∀ other, ¬ Flaw (.on earlier) filter other) ∧
        Flaw (.on document) filter failure
  /-- It does so on every collection with documents for a flaw that nothing is
  tried before. -/
  turnedAwayAtOnce (store : MemoryStore) (name : String) {failure : StoreError}
    (flaw : Flaw .atOnce filter failure)
    (filled : store.documents name ≠ []) :
    store.TurnsAway name filter failure
  /-- Where no flaw is found on any document, all operations concern the
  documents that satisfy the filter. -/
  taken (store : MemoryStore) (name : String)
    (none : ∀ document ∈ store.documents name, ∀ failure,
      ¬ Flaw (.on document) filter failure) :
    store.Concerns name filter
      ((store.documents name).filter (·.satisfies filter))

theorem turnsAway_iff_exists_flaw {store : MemoryStore} {name : String}
    {filter : Document} {failure : StoreError} :
    store.TurnsAway name filter failure ↔
      ∃ before document after,
        store.documents name = before ++ document :: after ∧
        (∀ earlier ∈ before, ∀ other, ¬ Flaw (.on earlier) filter other) ∧
        Flaw (.on document) filter failure := by
  rw [turnsAway_iff, select_eq_error_iff]
  simp only [exists_meets_iff, meets_eq_error_iff]

theorem concerns_of_no_flaw {store : MemoryStore} {name : String}
    {filter : Document}
    (none : ∀ document ∈ store.documents name, ∀ failure,
      ¬ Flaw (.on document) filter failure) :
    store.Concerns name filter
      ((store.documents name).filter (·.satisfies filter)) := by
  cases searched : store.select name filter with
  | error failure =>
      rcases select_eq_error_iff.mp searched with
        ⟨before, document, after, here, -, failed⟩
      have member : document ∈ store.documents name := by simp [here]
      exact absurd (meets_eq_error_iff.mp failed) (none document member failure)
  | ok found =>
      have concerns := concerns_of_select searched
      rw [← concerns.selected]
      exact concerns

/-- A filter fails, on a document and on a collection, exactly for the flaws
that the evaluation comes to. -/
theorem flawLaws_of_filter (filter : Document) : FlawLaws filter := by
  have foremost {failure : StoreError} (flaw : Flaw .atOnce filter failure)
      (document : Document) : Flaw (.on document) filter failure :=
    flaw.mono (Passing.atOnce_implies_on document)
  constructor
  · intro document failure
    exact meets_eq_error_iff
  · intro none document
    rw [exists_meets_iff]
    intro failure flaw
    exact none failure (flaw.mono (Passing.implies_anywhere _))
  · intro failure flaw document
    exact (foremost flaw document).meets
  · intro store name failure
    exact turnsAway_iff_exists_flaw
  · intro store name failure flaw filled
    rcases List.exists_cons_of_ne_nil filled with ⟨document, rest, here⟩
    exact turnsAway_iff_exists_flaw.mpr
      ⟨[], document, rest, here, by simp, foremost flaw document⟩
  · intro store name none
    exact concerns_of_no_flaw none

/-- The second branch has a flaw. -/
def halfFlawed : Document :=
  [("$or", .array [.document [("a", .ofInt 2)],
    .document [("$bad", .ofInt 1)]])]

theorem flaw_halfFlawed :
    Flaw .anywhere halfFlawed
      (.invalidOperation (.unknownTopLevelOperator "$bad")) := by
  have inside : Flaw .anywhere [("$bad", .ofInt 1)]
      (.invalidOperation (.unknownTopLevelOperator "$bad")) :=
    @Flaw.unknown _ [] [] "$bad" _ trivial (by decide) (by simp [IsLogical])
  exact @Flaw.branch _ [] [] "$or" [[("a", .ofInt 2)]] [] _ _ trivial
    (Or.inr (Or.inl rfl)) trivial inside

/-- One document, which meets the first branch. -/
def singleStore : MemoryStore :=
  (empty "sample" default).run
    [.insert "c" [("_id", .ofInt 1), ("a", .ofInt 2)] []]

/-- A filter with a flaw fails on one document and answers on another, and a
document is removed through it. -/
theorem not_refused_of_flaw :
    (¬ ∀ filter first second : Document,
      (∃ failure, first.meets filter = .error failure) ↔
        ∃ failure, second.meets filter = .error failure) ∧
      (∃ failure, Flaw .anywhere halfFlawed failure) ∧
      singleStore.documents "c" = [[("_id", .ofInt 1), ("a", .ofInt 2)]] ∧
      (singleStore.answer (.remove "c" halfFlawed [])).state.documents "c" =
        [] := by
  refine ⟨?_, ⟨_, flaw_halfFlawed⟩, rfl, rfl⟩
  intro independent
  have failed : Document.meets [("a", .ofInt 3)] halfFlawed =
      .error (.invalidOperation (.unknownTopLevelOperator "$bad")) := rfl
  have answered : Document.meets [("a", .ofInt 2)] halfFlawed = .ok true := rfl
  rcases (independent halfFlawed [("a", .ofInt 3)] [("a", .ofInt 2)]).mp
    ⟨_, failed⟩ with ⟨failure, refused⟩
  rw [answered] at refused
  cases refused

end Filter

end DocQuery
