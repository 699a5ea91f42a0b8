import DocQuery.Proofs.Store.Intention

/-!
# What calls do to collections

Everything that a call can do to a collection, in one statement for all calls.
What runs of a store preserve is derived from it, without a further look at
the calls.
-/

namespace DocQuery

open Store (Call Reply)

namespace Index

/-- Every name that is made from a key ends with a direction. -/
theorem getLast?_join_namePart (key : Document) (given : key ≠ []) :
    (Text.join ['_'] (key.map fun (path, direction) =>
      namePart path (.ofValue direction))).getLast? = some '1' := by
  have ends (path : String) (direction : Direction) :
      (namePart path direction).getLast? = some '1' := by
    cases direction <;> simp [namePart]
  induction key with
  | nil => exact absurd rfl given
  | cons entry rest ih =>
      cases rest with
      | nil => exact ends entry.1 _
      | cons next others =>
          have later := ih (by simp)
          simp only [List.map_cons, Text.join] at later ⊢
          rw [List.getLast?_append, later]
          rfl

/-- No name that is made from a key is that of the index that every collection
has. -/
theorem nameOf_ne_identityName (key : Document) :
    nameOf key ≠ identityName := by
  intro same
  have characters := congrArg String.toList same
  simp only [nameOf, String.toList_ofList] at characters
  cases key with
  | nil => simp [Text.join, identityName] at characters
  | cons entry rest =>
      have last := getLast?_join_namePart (entry :: rest) (by simp)
      rw [characters] at last
      simp [identityName] at last

end Index

/-- What a call can make of a collection that it does not remove. -/
inductive Collection.Step (discards : Bool) (before : Collection) :
    Collection → Prop where
  | kept : Step discards before before
  | stored {documents : List Document} (proper : AllWellFormed documents)
      (separated : (before.withDocuments documents).Separated) :
      Step discards before (before.withDocuments documents)
  | indexed {index : Index} (keyed : index.key ≠ [])
      (fresh : before.hasIndex index.name = false)
      (separated : (before.withIndex index).Separated) :
      Step discards before (before.withIndex index)
  | unindexed {keep : String → Bool}
      (identity : keep Index.identityName = true)
      (allowed : discards = true) :
      Step discards before (before.keepIndexes keep)

namespace Collection

theorem misses_sublist (marked : List Marked) :
    (Marked.misses marked).Sublist (marked.map Marked.document) :=
  List.filter_sublist.map Marked.document

/-- Fewer documents are kept apart as more are. -/
theorem Separated.sublist {collection : Collection} {part : List Document}
    (separated : collection.Separated)
    (proper : AllWellFormed collection.documents)
    (sublist : part.Sublist collection.documents) :
    (collection.withDocuments part).Separated :=
  fun index member unique =>
    (separated index member unique).sublist proper sublist

theorem step_remove {collection next : Collection} {filter : Document}
    {all discards : Bool} (proper : AllWellFormed collection.documents)
    (separated : collection.Separated)
    (removed : collection.remove filter all = .ok next) :
    Step discards collection next := by
  simp only [remove, bind, bind_eq_ok_iff] at removed
  rcases removed with ⟨marked, selected, made⟩
  rcases Except.ok.inj made with rfl
  have sublist : (Marked.misses marked).Sublist collection.documents :=
    documents_select selected ▸ misses_sublist marked
  exact Step.stored (proper.sublist sublist)
    (separated.sublist proper sublist)

end Collection

namespace MemoryStore

/-- What a call can do under one name. -/
inductive Passage (discards : Bool) :
    Option Collection → Option Collection → Prop where
  | untouched {before : Option Collection} : Passage discards before before
  | written {before : Option Collection} {next : Collection}
      (step : Collection.Step discards (before.getD .empty) next) :
      Passage discards before (some next)
  | dropped {before : Option Collection} (allowed : discards = true) :
      Passage discards before none

variable {store : MemoryStore} {name other : String} {discards : Bool}

theorem target_of_get? {collection : Collection}
    (found : store.get? name = some collection) :
    store.target name = collection := by
  rw [target, found]
  rfl

/-! ## Writes -/

theorem passage_of_settled {Answer : Type} {intended : Collection}
    {reply : Reply MemoryStore Answer}
    (settled : Settled store name intended reply)
    (frame : ∀ {other}, other ≠ name →
      reply.state.get? other = store.get? other)
    (step : intended.Separated →
      Collection.Step discards (store.target name) intended)
    (other : String) :
    Passage discards (store.get? other) (reply.state.get? other) := by
  by_cases same : other = name
  · subst same
    cases settled with
    | accepted separated _ _ left =>
        rw [left]
        exact Passage.written (step separated)
    | refused _ _ _ _ _ kept =>
        rw [kept]
        exact Passage.written Collection.Step.kept
  · rw [frame same]
    exact Passage.untouched

section

variable (proper : AllWellFormed (store.target name).documents)
  (separated : (store.target name).Separated)

include proper separated

theorem passage_insert {document : Document}
    (documentProper : document.wellFormed = true) (other : String) :
    Passage discards (store.get? other)
      ((store.insert name document).state.get? other) := by
  refine passage_of_settled
    (settled_insert proper separated documentProper) ?_ ?_ other
  · intro other different
    simp only [insert]
    split <;> exact get?_write_ne _ different _
  · refine Collection.Step.stored (allWellFormed_append.mpr ⟨proper, ?_⟩)
    simpa using Identified.wellFormed_ofDocument store.supply documentProper

theorem passage_insertAll {documents : List Document}
    (documentsProper : AllWellFormed documents) (other : String) :
    Passage discards (store.get? other)
      ((store.insertAll name documents).state.get? other) := by
  refine passage_of_settled
    (settled_insertAll proper separated documentsProper) ?_ ?_ other
  · intro other different
    rw [insertAll_eq_write]
    exact get?_write_ne _ different _
  · exact Collection.Step.stored (allWellFormed_append.mpr ⟨proper,
      Identified.allWellFormed_ofDocuments store.supply documentsProper⟩)

theorem passage_update {filter change options : Document}
    (filterProper : filter.wellFormed = true)
    (changeProper : change.wellFormed = true) (other : String) :
    Passage discards (store.get? other)
      ((store.update name filter change options).state.get? other) := by
  have frame : ∀ {other}, other ≠ name →
      (store.update name filter change options).state.get? other =
        store.get? other :=
    fun different => get?_write_ne _ different _
  cases evaluated : (store.target name).updated filter change
      (isSet options "multiple")
      (newcomer store.supply filter change options).1 with
  | ok documents =>
      refine passage_of_settled (settled_update proper separated filterProper
        changeProper evaluated) frame ?_ other
      exact Collection.Step.stored (Collection.allWellFormed_updated proper
        changeProper
        (fun _ made => wellFormed_newcomer filterProper changeProper made)
        evaluated)
  | error failure =>
      by_cases same : other = name
      · subst same
        have kept : (store.update other filter change options).state.get?
            other = some (store.target other) := by
          simp only [MemoryStore.update, write]
          split
          · next next answer done =>
              rcases Collection.exists_updated_of_update_eq_ok done with
                ⟨documents, found⟩
              exact absurd (evaluated.symm.trans found) (by simp)
          · exact get?_put_self ..
        rw [kept]
        exact Passage.written Collection.Step.kept
      · rw [frame same]
        exact Passage.untouched

theorem passage_ensureIndex {keys options : Document} (other : String) :
    Passage discards (store.get? other)
      ((store.ensureIndex name keys options).state.get? other) := by
  by_cases keyed : keys = []
  · subst keyed
    exact Passage.untouched
  · refine passage_of_settled
      (settled_ensureIndex proper separated keyed) ?_ ?_ other
    · intro other different
      have given : keys.isEmpty = false := by simpa using keyed
      simp only [ensureIndex, given, Bool.false_eq_true, if_false]
      exact get?_write_ne _ different _
    · intro intendedSeparated
      split at intendedSeparated
      · next used =>
          rw [if_pos used]
          exact Collection.Step.kept
      · next fresh =>
          rw [if_neg fresh]
          exact Collection.Step.indexed keyed (by simpa using fresh)
            intendedSeparated

end

/-! ## Removals -/

/-- A change of a collection that is there. -/
theorem passage_modify {Answer : Type} {absent : Answer}
    {change : Collection → Except StoreError (Collection × Answer)}
    (step : ∀ {collection next answer}, store.get? name = some collection →
      change collection = .ok (next, answer) →
        Collection.Step discards collection next) :
    Passage discards (store.get? name)
      ((store.modify name absent change).state.get? name) := by
  cases found : store.get? name with
  | none =>
      simp only [modify, found]
      exact Passage.untouched
  | some collection =>
      simp only [modify, found]
      cases made : change collection with
      | ok outcome =>
          simp only [get?_put_self]
          exact Passage.written (step found made)
      | error failure =>
          simp only [found]
          exact Passage.untouched

theorem get?_modify_ne {Answer : Type} {absent : Answer}
    {change : Collection → Except StoreError (Collection × Answer)}
    (different : other ≠ name) :
    (store.modify name absent change).state.get? other =
      store.get? other := by
  unfold modify
  split
  · rfl
  · split
    · exact get?_put_ne store different _
    · rfl

/-- A collection that is dropped is gone, and the others stay. -/
theorem get?_dropCollection (store : MemoryStore) (name other : String) :
    (store.dropCollection name).2.get? other =
      if other = name then none else store.get? other := by
  simp only [dropCollection, get?]
  induction store.collections with
  | nil => simp
  | cons entry rest ih =>
      rcases entry with ⟨known, collection⟩
      by_cases same : known = name
      · subst same
        by_cases wanted : other = known
        · simpa [wanted] using ih
        · have unequal : (other == known) = false := by simp [wanted]
          simpa [wanted, List.lookup_cons, unequal] using ih
      · by_cases wanted : other = known
        · subst wanted
          simp [same]
        · have unequal : (other == known) = false := by simp [wanted]
          simpa [same, List.lookup_cons, unequal] using ih

theorem passage_drop (allowed : other = name → discards = true) :
    Passage discards (store.get? other)
      ((store.dropCollection name).2.get? other) := by
  rw [get?_dropCollection]
  split
  · next same => exact Passage.dropped (allowed same)
  · exact Passage.untouched

theorem passage_remove
    (proper : AllWellFormed (store.target name).documents)
    (separated : (store.target name).Separated) (filter options : Document)
    (other : String) :
    Passage discards (store.get? other)
      ((store.remove name filter options).state.get? other) := by
  by_cases same : other = name
  · subst same
    unfold remove
    apply passage_modify
    intro before next answer found changed
    simp only [bind, bind_eq_ok_iff] at changed
    rcases changed with ⟨rest, removed, made⟩
    rcases Prod.mk.inj (Except.ok.inj made) with ⟨rfl, -⟩
    have here := target_of_get? found
    exact Collection.step_remove (here ▸ proper) (here ▸ separated) removed
  · rw [remove, get?_modify_ne same]
    exact Passage.untouched

theorem passage_deleteIndex (keys : Document)
    (allowed : other = name → discards = true) :
    Passage discards (store.get? other)
      ((store.deleteIndex name keys).state.get? other) := by
  unfold deleteIndex
  split
  · exact Passage.untouched
  · by_cases same : other = name
    · subst same
      apply passage_modify
      intro before next answer _ changed
      rcases Prod.mk.inj (Except.ok.inj changed) with ⟨rfl, -⟩
      refine Collection.Step.unindexed ?_ (allowed rfl)
      simpa using (Index.nameOf_ne_identityName keys).symm
    · rw [get?_modify_ne same]
      exact Passage.untouched

theorem passage_deleteIndexes (allowed : other = name → discards = true) :
    Passage discards (store.get? other)
      ((store.deleteIndexes name).state.get? other) := by
  unfold deleteIndexes
  by_cases same : other = name
  · subst same
    apply passage_modify
    intro before next answer _ changed
    rcases Prod.mk.inj (Except.ok.inj changed) with ⟨rfl, -⟩
    exact Collection.Step.unindexed (by simp) (allowed rfl)
  · rw [get?_modify_ne same]
    exact Passage.untouched

/-! ## Commands -/

theorem passage_perform (command : Command) :
    Passage (command.discards name) (store.get? name)
      ((store.perform command).2.get? name) := by
  cases command with
  | ping | count | listCollections => exact Passage.untouched
  | drop collection =>
      have state : (store.perform (.drop collection)).2 =
          (store.dropCollection collection).2 := by
        simp only [perform]
        split <;> next dropped => rw [dropped]
      rw [state]
      exact passage_drop fun same => by simp [Command.discards, same]
  | dropDatabase => exact Passage.dropped rfl

theorem passage_runCommand (document : Document) :
    Passage ((Call.runCommand document).discards name) (store.get? name)
      ((store.runCommand document).state.get? name) := by
  simp only [runCommand, Call.discards]
  cases Command.ofDocument document with
  | error failure => exact Passage.untouched
  | ok command => exact passage_perform command

/-! ## All calls -/

/-- What any call does under any name. -/
theorem passage_answer
    (proper : ∀ name, AllWellFormed (store.target name).documents)
    (separated : ∀ name, (store.target name).Separated)
    (call : Call) (callProper : call.WellFormed) (name : String) :
    Passage (call.discards name) (store.get? name)
      ((store.answer call).state.get? name) := by
  cases call with
  | find | count | indexInfo => exact Passage.untouched
  | insert collection document options =>
      exact passage_insert (proper collection) (separated collection)
        (callProper document (by simp [Call.documents])) name
  | batchInsert collection documents options =>
      refine passage_insertAll (proper collection) (separated collection)
        ?_ name
      exact fun document member =>
        callProper document (by simp [Call.documents, member])
  | update collection filter change options =>
      exact passage_update (proper collection) (separated collection)
        (callProper filter (by simp [Call.documents]))
        (callProper change (by simp [Call.documents])) name
  | remove collection filter options =>
      exact passage_remove (proper collection) (separated collection) filter
        options name
  | ensureIndex collection keys options =>
      exact passage_ensureIndex (proper collection) (separated collection) name
  | deleteIndex collection keys =>
      exact passage_deleteIndex keys fun same => by simp [Call.discards, same]
  | deleteIndexes collection =>
      exact passage_deleteIndexes fun same => by simp [Call.discards, same]
  | dropCollection collection =>
      exact passage_drop fun same => by simp [Call.discards, same]
  | runCommand document => exact passage_runCommand document

end MemoryStore

end DocQuery
