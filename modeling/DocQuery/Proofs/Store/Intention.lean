import DocQuery.Proofs.Store.Guard
import DocQuery.Proofs.Store.Run

/-!
# What a write would leave

The documents and indexes that a write is meant to leave, said without any
comparison of documents.  A write that succeeds leaves just these, and the
store refuses a write exactly when a unique index does not keep them apart.
-/

namespace DocQuery

open Store (Call Reply)

/-- A document as an update of the marked ones leaves it. -/
def Marked.rewritten (update : Document) (one : Marked) :
    Except StoreError Document :=
  if one.hit then
    (Update.apply one.document update).map Update.Outcome.document
  else
    .ok one.document

namespace Collection

variable {collection : Collection} {filter update : Document} {all : Bool}
  {newcomer : Option (Except StoreError Document)} {documents : List Document}

/-- The documents that an update would leave: every concerned one rewritten,
or the newcomer after the others if no document is concerned. -/
def updated (collection : Collection) (filter update : Document) (all : Bool)
    (newcomer : Option (Except StoreError Document)) :
    Except StoreError (List Document) := do
  let marked ← collection.select filter all
  if marked.any Marked.hit then
    marked.mapM (Marked.rewritten update)
  else
    match newcomer with
    | none => return collection.documents
    | some made => return collection.documents ++ [← made]

/-- A collection with a further index. -/
def withIndex (collection : Collection) (index : Index) : Collection :=
  { collection with indexes := collection.indexes ++ [index] }

@[simp]
theorem documents_withIndex (collection : Collection) (index : Index) :
    (collection.withIndex index).documents = collection.documents := rfl

@[simp]
theorem indexes_withIndex (collection : Collection) (index : Index) :
    (collection.withIndex index).indexes = collection.indexes ++ [index] := rfl

/-- Marks do not change the documents. -/
theorem documents_select {marked : List Marked}
    (selected : collection.select filter all = .ok marked) :
    marked.map Marked.document = collection.documents := by
  simp only [select, bind, bind_eq_ok_iff] at selected
  rcases selected with ⟨evaluated, marks, chosen⟩
  rcases Except.ok.inj chosen with rfl
  cases all with
  | true => exact Marked.documents_ofFilter marks
  | false =>
      simpa using Marked.documents_ofFilter marks

end Collection

/-! ## Amended documents -/

theorem Amended.map_document_ofMarked (update : Document)
    (marked : List Marked) :
    (ofMarked update marked).map (List.map Amended.document) =
      marked.mapM (Marked.rewritten update) := by
  induction marked with
  | nil => rfl
  | cons one rest ih =>
      rw [List.mapM_cons, ← ih]
      cases hit : one.hit with
      | true =>
          rw [ofMarked_cons_of_hit hit]
          simp only [Marked.rewritten, hit, if_true]
          cases Update.apply one.document update with
          | error failure => rfl
          | ok outcome => cases ofMarked update rest <;> rfl
      | false =>
          rw [ofMarked_cons_of_miss hit]
          simp only [Marked.rewritten, hit, Bool.false_eq_true, if_false]
          cases ofMarked update rest <;> rfl

namespace Collection

variable {collection : Collection} {filter update : Document} {all : Bool}
  {newcomer : Option (Except StoreError Document)} {documents : List Document}

/-- The two ways an update goes, once it is known which documents it
concerns. -/
theorem updated_eq_ok_iff :
    collection.updated filter update all newcomer = .ok documents ↔
      ∃ marked, collection.select filter all = .ok marked ∧
        ((marked.any Marked.hit = true ∧
            marked.mapM (Marked.rewritten update) = .ok documents) ∨
          (marked.any Marked.hit = false ∧
            ((newcomer = none ∧ documents = collection.documents) ∨
              ∃ document, newcomer = some (.ok document) ∧
                documents = collection.documents ++ [document]))) := by
  simp only [updated, bind, bind_eq_ok_iff]
  apply exists_congr
  intro marked
  apply and_congr_right
  intro _
  cases marked.any Marked.hit with
  | true => simp
  | false =>
      rcases newcomer with _ | failure | document
      · simp [pure, Except.pure, eq_comm]
      · simp [Except.bind]
      · simp [Except.bind, pure, Except.pure, eq_comm]

theorem allWellFormed_updated
    (proper : AllWellFormed collection.documents)
    (updateProper : update.wellFormed = true)
    (newcomerProper : ∀ document, newcomer = some (.ok document) →
      document.wellFormed = true)
    (intended :
      collection.updated filter update all newcomer = .ok documents) :
    AllWellFormed documents := by
  rcases updated_eq_ok_iff.mp intended with ⟨marked, selected, way⟩
  rcases way with ⟨-, rewritten⟩ | ⟨-, ⟨-, rfl⟩ | ⟨document, made, rfl⟩⟩
  · rw [← Amended.map_document_ofMarked] at rewritten
    rcases map_eq_ok_iff.mp rewritten with ⟨amended, made, rfl⟩
    exact Amended.allWellFormed_of_ofMarked updateProper
      (documents_select selected ▸ proper) made
  · exact proper
  · exact allWellFormed_append.mpr
      ⟨proper, by simpa using newcomerProper document made⟩

theorem guarded_update
    (proper : AllWellFormed collection.documents)
    (updateProper : update.wellFormed = true)
    (newcomerProper : ∀ document, newcomer = some (.ok document) →
      document.wellFormed = true)
    (separated : collection.Separated)
    (intended :
      collection.updated filter update all newcomer = .ok documents) :
    Guarded (collection.withDocuments documents)
      ((collection.update filter update all newcomer).map Prod.fst) := by
  rcases updated_eq_ok_iff.mp intended with ⟨marked, selected, way⟩
  simp only [Collection.update, bind, selected, Except.bind]
  rcases way with ⟨hit, rewritten⟩ | ⟨miss, ⟨rfl, rfl⟩ | ⟨document, rfl, rfl⟩⟩
  · rw [← Amended.map_document_ofMarked] at rewritten
    rcases map_eq_ok_iff.mp rewritten with ⟨amended, made, rfl⟩
    simp only [hit, if_true, amend, bind, made]
    show Guarded _ (((Amended.check collection.indexes [] amended).bind
      fun _ => .ok (_, Amended.report amended)).map Prod.fst)
    rw [map_fst_bind_ok]
    exact guarded_check proper updateProper separated
      (documents_select selected) made
  · simp only [miss, Bool.false_eq_true, if_false]
    exact Guarded.accepted separated
  · simp only [miss, Bool.false_eq_true, if_false]
    show Guarded _ (((collection.insert document).bind
      fun next => .ok (id next, (⟨0, 0⟩ : UpdateReport))).map Prod.fst)
    rw [map_fst_bind_ok, Except.map_id]
    exact guarded_insert proper (newcomerProper document rfl) separated

/-- An update succeeds only if its filter and its changes can be
evaluated. -/
theorem exists_updated_of_update_eq_ok {outcome : Collection × UpdateReport}
    (done : collection.update filter update all newcomer = .ok outcome) :
    ∃ documents,
      collection.updated filter update all newcomer = .ok documents := by
  simp only [Collection.update, bind, bind_eq_ok_iff] at done
  rcases done with ⟨marked, selected, done⟩
  simp only [updated_eq_ok_iff, selected, Except.ok.injEq, exists_eq_left']
  cases hit : marked.any Marked.hit with
  | true =>
      simp only [hit, if_true, amend, bind, bind_eq_ok_iff] at done
      rcases done with ⟨amended, made, -⟩
      refine ⟨amended.map Amended.document, Or.inl ⟨rfl, ?_⟩⟩
      rw [← Amended.map_document_ofMarked, made]
      rfl
  | false =>
      simp only [hit, Bool.false_eq_true, if_false] at done
      rcases newcomer with _ | failure | document
      · exact ⟨_, Or.inr ⟨rfl, Or.inl ⟨rfl, rfl⟩⟩⟩
      · simp [Except.bind] at done
      · exact ⟨_, Or.inr ⟨rfl, Or.inr ⟨document, rfl, rfl⟩⟩⟩

end Collection

/-! ## Documents with identifiers -/

/-- The two ways to a document with an identifier. -/
theorem Identified.document_ofDocument (supply : ObjectId.Supply)
    (document : Document) :
    (document.get? "_id" ≠ none ∧
        (ofDocument supply document).1.document = document) ∨
      (document.get? "_id" = none ∧ ∃ id,
        (ofDocument supply document).1.document =
          ("_id", .objectId id) :: document) := by
  unfold ofDocument
  cases document.get? "_id" with
  | some id => exact Or.inl ⟨by simp, rfl⟩
  | none => exact Or.inr ⟨rfl, _, rfl⟩

theorem Identified.wellFormed_ofDocument {document : Document}
    (supply : ObjectId.Supply) (proper : document.wellFormed = true) :
    (ofDocument supply document).1.document.wellFormed = true := by
  rcases document_ofDocument supply document with
    ⟨-, same⟩ | ⟨absent, id, stamped⟩
  · rw [same]
    exact proper
  · rw [stamped]
    exact Document.wellFormed_cons proper rfl absent

theorem Identified.allWellFormed_ofDocuments {documents : List Document}
    (supply : ObjectId.Supply) (proper : AllWellFormed documents) :
    AllWellFormed ((ofDocuments supply documents).1.map document) := by
  induction documents generalizing supply with
  | nil => exact allWellFormed_nil
  | cons document rest ih =>
      have ⟨documentProper, restProper⟩ := allWellFormed_cons.mp proper
      exact allWellFormed_cons.mpr
        ⟨wellFormed_ofDocument supply documentProper,
          ih (ofDocument supply document).2 restProper⟩

namespace MemoryStore

theorem wellFormed_newcomer {supply : ObjectId.Supply}
    {filter update options document : Document}
    (filterProper : filter.wellFormed = true)
    (updateProper : update.wellFormed = true)
    (made : (newcomer supply filter update options).1 = some (.ok document)) :
    document.wellFormed = true := by
  unfold newcomer at made
  split at made
  · split at made
    · simp at made
    · next outcome applied =>
        rcases Except.ok.inj (Option.some.inj made) with rfl
        apply Identified.wellFormed_ofDocument supply
        exact Update.wellFormed_apply
          (Document.wellFormed_of_sublist filterProper List.filter_sublist)
          updateProper applied
  · simp at made

/-! ## Calls -/

/-- The collection that a write to a name finds. -/
def target (store : MemoryStore) (name : String) : Collection :=
  (store.get? name).getD .empty

/-- The name that a write is to, and the collection that it would leave under
this name.  An index is not added under a name that is in use or without a
key.  There is nothing for calls of other kinds, nor for an update whose
filter or changes cannot be evaluated. -/
def intended? (store : MemoryStore) : Call → Option (String × Collection)
  | .insert name document _ =>
    let collection := store.target name
    let identified := (Identified.ofDocument store.supply document).1
    some (name, collection.withDocuments
      (collection.documents ++ [identified.document]))
  | .batchInsert name documents _ =>
    let collection := store.target name
    let identified := (Identified.ofDocuments store.supply documents).1
    some (name, collection.withDocuments
      (collection.documents ++ identified.map Identified.document))
  | .update name filter change options =>
    let collection := store.target name
    let newcomer := (newcomer store.supply filter change options).1
    match collection.updated filter change (isSet options "multiple")
        newcomer with
    | .ok documents => some (name, collection.withDocuments documents)
    | .error _ => none
  | .ensureIndex name keys options =>
    let collection := store.target name
    let index := requestedIndex keys options
    if keys.isEmpty || collection.hasIndex index.name then
      some (name, collection)
    else
      some (name, collection.withIndex index)
  | _ => none

/-- A reply to a write that would leave `intended` under a name.  Either the
write leaves it, or the store refuses the write with the name of an index that
does not keep the documents apart, and leaves what was there. -/
inductive Settled {Answer : Type} (store : MemoryStore) (name : String)
    (intended : Collection) (reply : Reply MemoryStore Answer) : Prop where
  | accepted (separated : intended.Separated) (answer : Answer)
      (result : reply.result = .ok answer)
      (left : reply.state.get? name = some intended)
  | refused (index : Index) (member : index ∈ intended.indexes)
      (unique : index.unique = true)
      (clash : ¬ index.KeepsApart intended.documents)
      (result : reply.result = .error index.duplicateKey)
      (kept : reply.state.get? name = some (store.target name))

/-- A write is settled by what its change makes of the collection that it
finds. -/
theorem settled_write {Answer : Type} (store : MemoryStore)
    (supply : ObjectId.Supply) {name : String} {intended : Collection}
    {change : Collection → Except StoreError (Collection × Answer)}
    (guarded : Collection.Guarded intended
      ((change (store.target name)).map Prod.fst)) :
    Settled store name intended
      ({ store with supply := supply }.write name change) := by
  have found : ({ store with supply := supply }.get? name).getD .empty =
      store.target name := rfl
  cases made : change (store.target name) with
  | ok outcome =>
      rw [made] at guarded
      rcases guarded.of_ok with ⟨rfl, separated⟩
      simp only [write, found, made]
      exact Settled.accepted separated outcome.2 rfl (get?_put_self ..)
  | error failure =>
      rw [made] at guarded
      rcases guarded.of_error with ⟨index, member, rfl, unique, clash⟩
      simp only [write, found, made]
      exact Settled.refused index member unique clash rfl (get?_put_self ..)

section

variable {store : MemoryStore} {name : String}
  (proper : AllWellFormed (store.target name).documents)
  (separated : (store.target name).Separated)

include proper separated

theorem settled_insert {document : Document}
    (documentProper : document.wellFormed = true) :
    Settled store name
      ((store.target name).withDocuments ((store.target name).documents ++
        [(Identified.ofDocument store.supply document).1.document]))
      (store.insert name document) := by
  have identifiedProper :=
    Identified.wellFormed_ofDocument store.supply documentProper
  simp only [insert]
  generalize Identified.ofDocument store.supply document = given
    at identifiedProper ⊢
  rcases given with ⟨identified, supply⟩
  have settled : Settled store name
      ((store.target name).withDocuments
        ((store.target name).documents ++ [identified.document]))
      ({ store with supply := supply }.write name fun collection =>
        (collection.insert identified.document).bind
          fun next => .ok (id next, some identified.id)) := by
    apply settled_write store supply
    rw [map_fst_bind_ok, Except.map_id]
    exact Collection.guarded_insert proper identifiedProper separated
  -- The trace line of an insertion is no part of what is settled.
  cases settled with
  | accepted separated answer result left =>
      refine Settled.accepted separated answer ?_ ?_
      all_goals split
      exacts [result, result, left, left]
  | refused index member unique clash result kept =>
      refine Settled.refused index member unique clash ?_ ?_
      all_goals split
      exacts [result, result, kept, kept]

theorem settled_insertAll {documents : List Document}
    (documentsProper : AllWellFormed documents) :
    Settled store name
      ((store.target name).withDocuments ((store.target name).documents ++
        (Identified.ofDocuments store.supply documents).1.map
          Identified.document))
      (store.insertAll name documents) := by
  have identifiedProper :=
    Identified.allWellFormed_ofDocuments store.supply documentsProper
  rw [insertAll_eq_write]
  generalize Identified.ofDocuments store.supply documents = given
    at identifiedProper ⊢
  rcases given with ⟨identified, supply⟩
  apply settled_write store supply
  show Collection.Guarded _ (((Collection.insertAll _ _).bind
    fun next => .ok (id next, _)).map Prod.fst)
  rw [map_fst_bind_ok, Except.map_id]
  exact Collection.guarded_insertAll proper identifiedProper separated

theorem settled_update {filter change options : Document}
    {documents : List Document} (filterProper : filter.wellFormed = true)
    (changeProper : change.wellFormed = true)
    (evaluated : (store.target name).updated filter change
      (isSet options "multiple")
      (newcomer store.supply filter change options).1 = .ok documents) :
    Settled store name ((store.target name).withDocuments documents)
      (store.update name filter change options) := by
  have newcomerProper : ∀ document,
      (newcomer store.supply filter change options).1 = some (.ok document) →
        document.wellFormed = true :=
    fun _ made => wellFormed_newcomer filterProper changeProper made
  simp only [MemoryStore.update]
  generalize newcomer store.supply filter change options = given
    at newcomerProper evaluated ⊢
  rcases given with ⟨newcomer, supply⟩
  exact settled_write store supply (Collection.guarded_update proper
    changeProper newcomerProper separated evaluated)

theorem settled_ensureIndex {keys options : Document} (keyed : keys ≠ []) :
    Settled store name
      (if (store.target name).hasIndex (requestedIndex keys options).name then
        store.target name
      else
        (store.target name).withIndex (requestedIndex keys options))
      (store.ensureIndex name keys options) := by
  have given : keys.isEmpty = false := by simpa using keyed
  simp only [ensureIndex, given, Bool.false_eq_true, if_false]
  apply settled_write store store.supply
  show Collection.Guarded _ (((Collection.addIndex _ _).bind
    fun next => .ok (id next, true)).map Prod.fst)
  rw [map_fst_bind_ok, Except.map_id]
  split
  · next used =>
      simp only [Collection.addIndex, used, if_true]
      exact Collection.Guarded.accepted separated
  · next fresh =>
      exact Collection.guarded_addIndex proper separated (by simpa using fresh)

end

/-- A write that has a key for the index it asks for, if any, either leaves
what it would leave or is refused for a duplicate key. -/
theorem settled_answer {store : MemoryStore} {call : Call} {name : String}
    {next : Collection}
    (proper : AllWellFormed (store.target name).documents)
    (separated : (store.target name).Separated)
    (callProper : call.WellFormed) (keyed : call.lacksKeys = false)
    (intended : store.intended? call = some (name, next)) :
    Settled store name next (store.answer call) := by
  cases call with
  | insert collection document options =>
      rcases Prod.mk.inj (Option.some.inj intended) with ⟨rfl, rfl⟩
      exact settled_insert proper separated
        (callProper document (by simp [Call.documents]))
  | batchInsert collection documents options =>
      rcases Prod.mk.inj (Option.some.inj intended) with ⟨rfl, rfl⟩
      exact settled_insertAll proper separated fun document member =>
        callProper document (by simp [Call.documents, member])
  | update collection filter change options =>
      simp only [intended?] at intended
      split at intended
      · next documents evaluated =>
          rcases Prod.mk.inj (Option.some.inj intended) with ⟨rfl, rfl⟩
          exact settled_update proper separated
            (callProper filter (by simp [Call.documents]))
            (callProper change (by simp [Call.documents])) evaluated
      · simp at intended
  | ensureIndex collection keys options =>
      have keysGiven : keys.isEmpty = false := keyed
      simp only [intended?, keysGiven, Bool.false_or, ← apply_ite] at intended
      rcases Prod.mk.inj (Option.some.inj intended) with ⟨rfl, rfl⟩
      exact settled_ensureIndex proper separated (by simpa using keysGiven)
  | find | count | remove | deleteIndex | deleteIndexes | indexInfo
  | dropCollection | runCommand => simp [intended?] at intended

end MemoryStore

end DocQuery
