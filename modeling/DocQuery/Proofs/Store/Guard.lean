import DocQuery.Proofs.Outcome
import DocQuery.Proofs.Store.Separation
import DocQuery.Proofs.Update.WellFormed
import DocQuery.Store.Collection

/-!
# Operations guarded by unique indexes

An operation on a collection would leave certain documents and indexes.  It is
guarded when it leaves them if every unique index keeps the documents apart,
and otherwise fails with the name of an index that does not.  All operations
that store something are guarded, whichever way they compare documents: one
newcomer with all others, many newcomers one after the other, amended
documents with a view in which all of them are amended, or all documents with
each other.

The comparisons leave out the pairs of documents that were there before.  That
those are apart is what the operations assume and, in turn, preserve.
-/

namespace DocQuery

namespace Collection

/-- Every unique index keeps the documents apart. -/
def Separated (collection : Collection) : Prop :=
  ∀ index ∈ collection.indexes, index.unique = true →
    index.KeepsApart collection.documents

/-- Documents at different positions do not have the same values at all paths
of a unique index. -/
theorem Separated.not_agreeOn {collection : Collection}
    (separated : collection.Separated) {index : Index}
    (member : index ∈ collection.indexes) (unique : index.unique = true)
    {first second : Nat} {left right : Document} (different : first ≠ second)
    (leftAt : collection.documents[first]? = some left)
    (rightAt : collection.documents[second]? = some right) :
    ¬ AgreeOn index.key left right := by
  intro agreeing
  have apart := separated index member unique first second left right
    different leftAt rightAt
  rw [Index.sameKey_iff.mpr agreeing] at apart
  exact Bool.noConfusion apart

/-- A collection with other documents. -/
def withDocuments (collection : Collection) (documents : List Document) :
    Collection :=
  { collection with documents := documents }

@[simp]
theorem documents_withDocuments (collection : Collection)
    (documents : List Document) :
    (collection.withDocuments documents).documents = documents := rfl

@[simp]
theorem indexes_withDocuments (collection : Collection)
    (documents : List Document) :
    (collection.withDocuments documents).indexes = collection.indexes := rfl

/-- The outcomes of a guarded operation that would leave `intended`. -/
inductive Guarded (intended : Collection) :
    Except StoreError Collection → Prop where
  | accepted (separated : intended.Separated) :
      Guarded intended (.ok intended)
  | refused (index : Index) (member : index ∈ intended.indexes)
      (unique : index.unique = true)
      (clash : ¬ index.KeepsApart intended.documents) :
      Guarded intended (.error index.duplicateKey)

namespace Guarded

theorem of_ok {intended next : Collection}
    (guarded : Guarded intended (.ok next)) :
    next = intended ∧ intended.Separated := by
  cases guarded with
  | accepted separated => exact ⟨rfl, separated⟩

theorem of_error {intended : Collection} {failure : StoreError}
    (guarded : Guarded intended (.error failure)) :
    ∃ index ∈ intended.indexes, failure = index.duplicateKey ∧
      index.unique = true ∧ ¬ index.KeepsApart intended.documents := by
  cases guarded with
  | refused index member unique clash =>
      exact ⟨index, member, rfl, unique, clash⟩

end Guarded

/-! ## Newcomers -/

theorem guarded_insert {collection : Collection} {document : Document}
    (proper : AllWellFormed collection.documents)
    (documentProper : document.wellFormed = true)
    (separated : collection.Separated) :
    Guarded
      (collection.withDocuments (collection.documents ++ [document]))
      (collection.insert document) := by
  simp only [insert, bind, pure, Except.pure]
  cases checked :
      Index.checkAll collection.indexes collection.documents document with
  | ok =>
      have differ := Index.checkAll_eq_ok_iff.mp checked
      apply Guarded.accepted
      intro index member unique
      rw [documents_withDocuments,
        Index.keepsApart_concat_iff proper documentProper]
      exact ⟨separated index member unique, differ index member unique⟩
  | error failure =>
      rcases Index.exists_of_checkAll_eq_error checked with
        ⟨index, member, rfl, unique, stored, storedMember, same⟩
      refine Guarded.refused index member unique ?_
      intro apart
      rw [documents_withDocuments,
        Index.keepsApart_concat_iff proper documentProper] at apart
      simp [apart.2 stored storedMember] at same

/-- Storing documents one after the other amounts to storing all of them: a
clash among the first ones remains a clash among all. -/
theorem guarded_insertAll {collection : Collection}
    {documents : List Document}
    (proper : AllWellFormed collection.documents)
    (documentsProper : AllWellFormed documents)
    (separated : collection.Separated) :
    Guarded
      (collection.withDocuments (collection.documents ++ documents))
      (collection.insertAll documents) := by
  induction documents generalizing collection with
  | nil =>
      rw [List.append_nil]
      exact Guarded.accepted separated
  | cons document rest ih =>
      have ⟨documentProper, restProper⟩ :=
        allWellFormed_cons.mp documentsProper
      have first := guarded_insert proper documentProper separated
      simp only [insertAll, bind]
      cases stored : collection.insert document with
      | ok next =>
          rw [stored] at first
          rcases first.of_ok with ⟨rfl, nextSeparated⟩
          have nextProper :
              AllWellFormed (collection.documents ++ [document]) :=
            allWellFormed_append.mpr ⟨proper, by simpa using documentProper⟩
          simpa [withDocuments, Except.bind] using
            ih nextProper restProper nextSeparated
      | error failure =>
          rw [stored] at first
          rcases first.of_error with ⟨index, member, rfl, unique, clash⟩
          refine Guarded.refused index member unique ?_
          intro apart
          refine clash (apart.sublist
            (allWellFormed_append.mpr ⟨proper, documentsProper⟩) ?_)
          simp

end Collection

/-! ## Amended documents -/

namespace Amended

variable {update : Document} {indexes : List Index} {before : List Document}

theorem ofMarked_cons_of_hit {one : Marked} {rest : List Marked}
    (hit : one.hit = true) :
    ofMarked update (one :: rest) =
      (Update.apply one.document update).bind fun outcome =>
        (ofMarked update rest).map fun others =>
          ⟨outcome.document, true, outcome.changed⟩ :: others := by
  simp only [ofMarked, hit, if_true]
  rfl

theorem ofMarked_cons_of_miss {one : Marked} {rest : List Marked}
    (miss : one.hit = false) :
    ofMarked update (one :: rest) =
      (ofMarked update rest).map fun others =>
        ⟨one.document, false, false⟩ :: others := by
  simp only [ofMarked, miss, Bool.false_eq_true, if_false]
  rfl

theorem check_cons_of_hit {one : Amended} {rest : List Amended}
    (hit : one.hit = true) :
    check indexes before (one :: rest) =
      (Index.checkAll indexes (before ++ rest.map Amended.document)
        one.document).bind fun _ =>
          check indexes (before ++ [one.document]) rest := by
  simp only [check, hit, if_true]
  rfl

theorem check_cons_of_miss {one : Amended} {rest : List Amended}
    (miss : one.hit = false) :
    check indexes before (one :: rest) =
      check indexes (before ++ [one.document]) rest := by
  simp [check, miss]

/-- The first document is amended if it is marked and otherwise kept, and the
others are amended by themselves. -/
theorem exists_of_ofMarked_cons {one : Marked} {rest : List Marked}
    {amended : List Amended}
    (made : ofMarked update (one :: rest) = .ok amended) :
    ∃ first others, amended = first :: others ∧
      ofMarked update rest = .ok others ∧
        ((first.hit = true ∧ ∃ outcome,
            Update.apply one.document update = .ok outcome ∧
              first.document = outcome.document) ∨
          (first.hit = false ∧ first.document = one.document)) := by
  cases hit : one.hit with
  | true =>
      rw [ofMarked_cons_of_hit hit, bind_eq_ok_iff] at made
      rcases made with ⟨outcome, applied, made⟩
      rcases map_eq_ok_iff.mp made with ⟨others, othersMade, rfl⟩
      exact ⟨_, others, rfl, othersMade,
        Or.inl ⟨rfl, outcome, applied, rfl⟩⟩
  | false =>
      rw [ofMarked_cons_of_miss hit] at made
      rcases map_eq_ok_iff.mp made with ⟨others, othersMade, rfl⟩
      exact ⟨_, others, rfl, othersMade, Or.inr ⟨rfl, rfl⟩⟩

/-- An amended list keeps the documents that were not to be amended. -/
theorem mem_of_ofMarked {marked : List Marked} {amended : List Amended}
    (made : ofMarked update marked = .ok amended) {one : Amended}
    (member : one ∈ amended) (kept : one.hit = false) :
    one.document ∈ marked.map Marked.document := by
  induction marked generalizing amended with
  | nil =>
      rcases Except.ok.inj made with rfl
      simp at member
  | cons before rest ih =>
      rcases exists_of_ofMarked_cons made with
        ⟨first, others, rfl, othersMade, way⟩
      rcases List.mem_cons.mp member with rfl | later
      · rcases way with ⟨hit, -⟩ | ⟨-, same⟩
        · exact absurd (hit.symm.trans kept) (by simp)
        · simp [same]
      · exact List.mem_cons_of_mem _ (ih othersMade later)

theorem allWellFormed_of_ofMarked {marked : List Marked}
    {amended : List Amended} (updateProper : update.wellFormed = true)
    (proper : AllWellFormed (marked.map Marked.document))
    (made : ofMarked update marked = .ok amended) :
    AllWellFormed (amended.map Amended.document) := by
  induction marked generalizing amended with
  | nil =>
      rcases Except.ok.inj made with rfl
      exact allWellFormed_nil
  | cons before rest ih =>
      rcases exists_of_ofMarked_cons made with
        ⟨first, others, rfl, othersMade, way⟩
      have ⟨beforeProper, restProper⟩ := allWellFormed_cons.mp proper
      refine allWellFormed_cons.mpr ⟨?_, ih restProper othersMade⟩
      rcases way with ⟨-, outcome, applied, same⟩ | ⟨-, same⟩
      · rw [same]
        exact Update.wellFormed_apply beforeProper updateProper applied
      · rw [same]
        exact beforeProper

/-- Documents that were not amended differ from each other if they did
before. -/
theorem kept_differ_of_ofMarked {marked : List Marked}
    {amended : List Amended} {index : Index}
    (differ : index.LaterDiffer (marked.map Marked.document))
    (made : ofMarked update marked = .ok amended) :
    amended.Pairwise fun one other =>
      one.hit = false → other.hit = false →
        index.sameKey one.document other.document = false := by
  induction marked generalizing amended with
  | nil =>
      rcases Except.ok.inj made with rfl
      exact List.Pairwise.nil
  | cons before rest ih =>
      rcases exists_of_ofMarked_cons made with
        ⟨first, others, rfl, othersMade, way⟩
      rcases List.pairwise_cons.mp differ with ⟨beforeDiffers, restDiffer⟩
      refine List.pairwise_cons.mpr ⟨?_, ih restDiffer othersMade⟩
      intro other member firstKept otherKept
      rcases way with ⟨hit, -⟩ | ⟨-, same⟩
      · exact absurd (hit.symm.trans firstKept) (by simp)
      · rw [same]
        exact beforeDiffers other.document
          (mem_of_ofMarked othersMade member otherKept)

/-- Checked documents differ from those before them and from each other,
wherever at least one of the two was amended. -/
theorem differ_of_check {amended : List Amended}
    (proper : AllWellFormed (amended.map Amended.document))
    (checked : check indexes before amended = .ok ()) {index : Index}
    (member : index ∈ indexes) (unique : index.unique = true) :
    (∀ stored ∈ before, ∀ one ∈ amended, one.hit = true →
        index.sameKey stored one.document = false) ∧
      amended.Pairwise fun one other =>
        one.hit = true ∨ other.hit = true →
          index.sameKey one.document other.document = false := by
  induction amended generalizing before with
  | nil => simp
  | cons one rest ih =>
      have ⟨oneProper, restProper⟩ := allWellFormed_cons.mp proper
      have parts : (one.hit = true →
            ∀ stored ∈ before ++ rest.map Amended.document,
              index.sameKey stored one.document = false) ∧
          check indexes (before ++ [one.document]) rest = .ok () := by
        cases hit : one.hit with
        | true =>
            rw [check_cons_of_hit hit, bind_eq_ok_iff] at checked
            rcases checked with ⟨⟨⟩, here, later⟩
            exact ⟨fun _ =>
              Index.checkAll_eq_ok_iff.mp here index member unique, later⟩
        | false =>
            rw [check_cons_of_miss hit] at checked
            exact ⟨by simp, checked⟩
      rcases parts with ⟨hereDiffer, later⟩
      rcases ih restProper later with ⟨earlierDiffer, restDiffer⟩
      constructor
      · intro stored inBefore other inAmended hit
        rcases List.mem_cons.mp inAmended with rfl | inRest
        · exact hereDiffer hit stored (by simp [inBefore])
        · exact earlierDiffer stored (by simp [inBefore]) other inRest hit
      · refine List.pairwise_cons.mpr ⟨?_, restDiffer⟩
        intro other inRest hit
        rcases hit with oneHit | otherHit
        · rw [Index.sameKey_comm oneProper
            (restProper other.document (List.mem_map_of_mem inRest))]
          exact hereDiffer oneHit other.document
            (List.mem_append_right _ (List.mem_map_of_mem inRest))
        · exact earlierDiffer one.document (by simp) other inRest otherHit

theorem exists_of_check_eq_error {amended : List Amended}
    {failure : StoreError}
    (proper : AllWellFormed (before ++ amended.map Amended.document))
    (refused : check indexes before amended = .error failure) :
    ∃ index ∈ indexes, failure = index.duplicateKey ∧ index.unique = true ∧
      ¬ index.KeepsApart (before ++ amended.map Amended.document) := by
  induction amended generalizing before with
  | nil => simp [check] at refused
  | cons one rest ih =>
      have laterRefused :
          check indexes (before ++ [one.document]) rest = .error failure →
          ∃ index ∈ indexes, failure = index.duplicateKey ∧
            index.unique = true ∧
            ¬ index.KeepsApart
              (before ++ (one :: rest).map Amended.document) := by
        intro later
        simpa using ih (by simpa using proper) later
      cases hit : one.hit with
      | false =>
          rw [check_cons_of_miss hit] at refused
          exact laterRefused refused
      | true =>
          rw [check_cons_of_hit hit] at refused
          cases here : Index.checkAll indexes
              (before ++ rest.map Amended.document) one.document with
          | ok =>
              rw [here] at refused
              exact laterRefused refused
          | error first =>
              rw [here] at refused
              rcases Except.error.inj refused with rfl
              rcases Index.exists_of_checkAll_eq_error here with
                ⟨index, member, equal, unique, stored, inOthers, same⟩
              refine ⟨index, member, equal, unique, ?_⟩
              intro apart
              have different := apart.others_differ proper stored inOthers
              simp [different] at same

end Amended

namespace Collection

/-- A check of the amended documents is enough: two documents of which neither
was amended are as different as they were before. -/
theorem guarded_check {collection : Collection} {update : Document}
    {marked : List Marked} {amended : List Amended}
    (proper : AllWellFormed collection.documents)
    (updateProper : update.wellFormed = true)
    (separated : collection.Separated)
    (marks : marked.map Marked.document = collection.documents)
    (made : Amended.ofMarked update marked = .ok amended) :
    Guarded
      (collection.withDocuments (amended.map Amended.document))
      ((Amended.check collection.indexes [] amended).map fun _ =>
        collection.withDocuments (amended.map Amended.document)) := by
  have amendedProper : AllWellFormed (amended.map Amended.document) :=
    Amended.allWellFormed_of_ofMarked updateProper (marks ▸ proper) made
  cases checked : Amended.check collection.indexes [] amended with
  | ok =>
      apply Guarded.accepted
      intro index member unique
      have differBefore :
          index.LaterDiffer (marked.map Marked.document) := by
        rw [marks]
        exact (Index.keepsApart_iff_laterDiffer proper).mp
          (separated index member unique)
      have kept := Amended.kept_differ_of_ofMarked differBefore made
      have checkedDiffer :=
        (Amended.differ_of_check amendedProper checked member unique).2
      rw [documents_withDocuments,
        Index.keepsApart_iff_laterDiffer amendedProper]
      apply List.pairwise_map.mpr
      apply (kept.and checkedDiffer).imp
      rintro one other ⟨neither, either⟩
      by_cases hit : one.hit = true ∨ other.hit = true
      · exact either hit
      · simp only [not_or, Bool.not_eq_true] at hit
        exact neither hit.1 hit.2
  | error failure =>
      rcases Amended.exists_of_check_eq_error amendedProper checked with
        ⟨index, member, rfl, unique, clash⟩
      exact Guarded.refused index member unique clash

/-! ## Further indexes -/

theorem guarded_addIndex {collection : Collection} {index : Index}
    (proper : AllWellFormed collection.documents)
    (separated : collection.Separated)
    (fresh : collection.hasIndex index.name = false) :
    Guarded { collection with indexes := collection.indexes ++ [index] }
      (collection.addIndex index) := by
  simp only [addIndex, fresh, Bool.false_eq_true, if_false]
  split
  · next refused =>
      simp only [Bool.and_eq_true, Bool.not_eq_true'] at refused
      apply Guarded.refused index (by simp) refused.1
      rw [Index.keepsApart_iff_laterDiffer proper, ← Index.separates_iff]
      simp [refused.2]
  · next allowed =>
      simp only [Bool.and_eq_true, Bool.not_eq_true', not_and,
        Bool.not_eq_false] at allowed
      apply Guarded.accepted
      intro other member unique
      rcases List.mem_append.mp member with old | new
      · exact separated other old unique
      · rcases List.mem_singleton.mp new with rfl
        rw [Index.keepsApart_iff_laterDiffer proper, ← Index.separates_iff]
        exact allowed unique

end Collection

end DocQuery
