import DocQuery.Proofs.Store.Idle

/-!
# What calls make of collections

The collection under a name after a call, told by the operation on collections
that the call comes down to.  This is the one look at all calls from which it
is derived where the documents and the indexes of a collection come from.
-/

namespace DocQuery

open Store (Call Reply)

/-- What a call makes of the collection under a name.  What is not there
counts as an empty collection, before the call and after it. -/
inductive Transition (store : MemoryStore) (name : String) :
    Call → Collection → Prop where
  | kept {call : Call} : Transition store name call (store.target name)
  | dropped {call : Call} : Transition store name call .empty
  | inserted {document options : Document} {next : Collection}
      (done : (store.target name).insert
        (Identified.ofDocument store.supply document).1.document = .ok next) :
      Transition store name (.insert name document options) next
  | batchInserted {documents : List Document} {options : Document}
      {next : Collection}
      (done : (store.target name).insertAll
        ((Identified.ofDocuments store.supply documents).1.map
          Identified.document) = .ok next) :
      Transition store name (.batchInsert name documents options) next
  | updated {filter change options : Document} {next : Collection}
      {report : UpdateReport}
      (done : (store.target name).update filter change
        (MemoryStore.isSet options "multiple")
        (MemoryStore.newcomer store.supply filter change options).1 =
          .ok (next, report)) :
      Transition store name (.update name filter change options) next
  | removed {filter options : Document} {next : Collection}
      (done : (store.target name).remove filter
        (!MemoryStore.isSet options "justOne") = .ok next) :
      Transition store name (.remove name filter options) next
  | indexed {keys options : Document} {next : Collection} (given : keys ≠ [])
      (done : (store.target name).addIndex
        (MemoryStore.requestedIndex keys options) = .ok next) :
      Transition store name (.ensureIndex name keys options) next
  | unindexed {call : Call} (keep : String → Bool) :
      Transition store name call ((store.target name).keepIndexes keep)

namespace MemoryStore

variable {store : MemoryStore} {name : String} {call : Call}

theorem target_congr {first later : MemoryStore}
    (same : first.get? name = later.get? name) :
    first.target name = later.target name := by
  rw [target, target, same]

theorem target_of_absent (absent : store.get? name = none) :
    store.target name = .empty := by
  rw [target, absent]
  rfl

theorem target_put_self (store : MemoryStore) (name : String)
    (collection : Collection) :
    (store.put name collection).target name = collection :=
  target_of_get? (get?_put_self store name collection)

theorem transition_of_get? {later : MemoryStore}
    (same : later.get? name = store.get? name) :
    Transition store name call (later.target name) := by
  rw [target_congr same]
  exact Transition.kept

theorem transition_write {Answer : Type} {supply : ObjectId.Supply}
    {change : Collection → Except StoreError (Collection × Answer)}
    (done : ∀ {next answer}, change (store.target name) = .ok (next, answer) →
      Transition store name call next)
    (other : String) :
    Transition store other call
      (({ store with supply := supply }.write name change).state.target
        other) := by
  by_cases same : other = name
  · subst same
    have found : ({ store with supply := supply }.get? other).getD .empty =
        store.target other := rfl
    simp only [write, found]
    cases made : change (store.target other) with
    | ok outcome =>
        rw [target_put_self]
        exact done made
    | error failure =>
        rw [target_put_self]
        exact Transition.kept
  · exact transition_of_get? (get?_write_ne _ same change)

theorem transition_modify {Answer : Type} {absent : Answer}
    {change : Collection → Except StoreError (Collection × Answer)}
    (done : ∀ {next answer}, change (store.target name) = .ok (next, answer) →
      Transition store name call next)
    (other : String) :
    Transition store other call
      ((store.modify name absent change).state.target other) := by
  by_cases same : other = name
  · subst same
    unfold modify
    split
    · exact Transition.kept
    · next collection found =>
        rw [target_of_get? found] at done
        cases made : change collection with
        | ok outcome =>
            rw [target_put_self]
            exact done made
        | error failure => exact Transition.kept
  · exact transition_of_get? (get?_modify_ne same)

theorem transition_insert {document options : Document} (other : String) :
    Transition store other (.insert name document options)
      ((store.insert name document).state.target other) := by
  rw [(insert_eq_write store name document).2]
  apply transition_write
  intro next answer made
  rcases map_eq_ok_iff.mp made with ⟨after, stored, equal⟩
  rcases Prod.mk.inj equal with ⟨rfl, -⟩
  exact Transition.inserted stored

theorem transition_insertAll {documents : List Document} {options : Document}
    (other : String) :
    Transition store other (.batchInsert name documents options)
      ((store.insertAll name documents).state.target other) := by
  rw [insertAll_eq_write]
  apply transition_write
  intro next answer made
  simp only [bind, bind_eq_ok_iff] at made
  rcases made with ⟨after, stored, equal⟩
  rcases Prod.mk.inj (Except.ok.inj equal) with ⟨rfl, -⟩
  exact Transition.batchInserted stored

theorem transition_remove {filter options : Document} (other : String) :
    Transition store other (.remove name filter options)
      ((store.remove name filter options).state.target other) := by
  apply transition_modify
  intro next answer made
  simp only [bind, bind_eq_ok_iff] at made
  rcases made with ⟨after, removed, equal⟩
  rcases Prod.mk.inj (Except.ok.inj equal) with ⟨rfl, -⟩
  exact Transition.removed removed

theorem transition_ensureIndex {keys options : Document} (other : String) :
    Transition store other (.ensureIndex name keys options)
      ((store.ensureIndex name keys options).state.target other) := by
  unfold ensureIndex
  split
  · exact Transition.kept
  · next given =>
      refine @transition_write store name _ Bool store.supply _ ?_ other
      intro next answer made
      simp only [bind, bind_eq_ok_iff] at made
      rcases made with ⟨after, added, equal⟩
      rcases Prod.mk.inj (Except.ok.inj equal) with ⟨rfl, -⟩
      exact Transition.indexed (by simpa using given) added

theorem transition_keepIndexes {Answer : Type} {absent : Answer}
    {keep : String → Bool} {answered : Collection → Answer} (other : String) :
    Transition store other call
      ((store.modify name absent fun collection =>
        .ok (collection.keepIndexes keep, answered collection)).state.target
          other) := by
  apply transition_modify
  intro next answer made
  rcases Prod.mk.inj (Except.ok.inj made) with ⟨rfl, -⟩
  exact Transition.unindexed keep

theorem transition_drop (other : String) :
    Transition store other call
      ((store.dropCollection name).2.target other) := by
  by_cases same : other = name
  · rw [target_of_absent (by rw [get?_dropCollection, if_pos same])]
    exact Transition.dropped
  · apply transition_of_get?
    rw [get?_dropCollection, if_neg same]

theorem transition_runCommand {command : Document} (other : String) :
    Transition store other call
      ((store.runCommand command).state.target other) := by
  unfold runCommand
  split
  · exact Transition.kept
  · next command _ =>
      cases command with
      | ping | count | listCollections => exact Transition.kept
      | drop collection =>
          have state : (store.perform (.drop collection)).2 =
              (store.dropCollection collection).2 := by
            simp only [perform]
            split <;> next dropped => rw [dropped]
          simp only [state]
          exact transition_drop other
      | dropDatabase =>
          have absent : (store.perform .dropDatabase).2.get? other = none :=
            rfl
          simp only [target_of_absent absent]
          exact Transition.dropped

/-- Every collection after a call is one that the call made of the collection
before. -/
theorem transition_answer (store : MemoryStore) (call : Call) (name : String) :
    Transition store name call ((store.answer call).state.target name) := by
  cases call with
  | find | count | indexInfo => exact Transition.kept
  | insert => exact transition_insert name
  | batchInsert => exact transition_insertAll name
  | update => exact transition_write Transition.updated name
  | remove => exact transition_remove name
  | ensureIndex => exact transition_ensureIndex name
  | deleteIndex collection keys =>
      simp only [answer, deleteIndex]
      split
      · exact Transition.kept
      · exact transition_keepIndexes name
  | deleteIndexes => exact transition_keepIndexes name
  | dropCollection => exact transition_drop name
  | runCommand => exact transition_runCommand name

end MemoryStore

end DocQuery
