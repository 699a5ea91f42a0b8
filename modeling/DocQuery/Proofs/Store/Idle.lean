import DocQuery.Proofs.Store.Selection

/-!
# Calls that store nothing

A call that fails leaves every collection as it was, wherever in the course of
the call the failure arises.  So does an update that finds nothing and a batch
without documents.

Such a call can nevertheless be seen afterwards: a batch, an update and a
request for an index open the collection they are for before they look at it,
and a collection that was not there stays behind empty.
-/

namespace DocQuery

open Store (Call Reply)

namespace MemoryStore

/-! ## Putting back what was found -/

theorem putCollection_of_lookup {name : String} {collection : Collection}
    {collections : List (String × Collection)}
    (found : collections.lookup name = some collection) :
    putCollection name collection collections = collections := by
  induction collections with
  | nil => simp at found
  | cons entry rest ih =>
      rcases entry with ⟨known, old⟩
      by_cases same : known = name
      · subst same
        simp only [List.lookup_cons, beq_self_eq_true, Option.some.injEq]
          at found
        simp [putCollection, found]
      · have other : (name == known) = false := by simp [Ne.symm same]
        simp only [List.lookup_cons, other] at found
        simp [putCollection, same, ih found]

theorem putCollection_of_absent {name : String}
    {collections : List (String × Collection)}
    (absent : collections.lookup name = none) (collection : Collection) :
    putCollection name collection collections =
      collections ++ [(name, collection)] := by
  induction collections with
  | nil => rfl
  | cons entry rest ih =>
      rcases entry with ⟨known, old⟩
      by_cases same : known = name
      · simp [same] at absent
      · have other : (name == known) = false := by simp [Ne.symm same]
        simp only [List.lookup_cons, other] at absent
        simp [putCollection, same, ih absent]

variable {store : MemoryStore} {name : String}

/-- The entry that stands for a collection once it was opened: a new one
without documents unless it was there. -/
def opening (store : MemoryStore) (name : String) :
    List (String × Collection) :=
  match store.get? name with
  | some _ => []
  | none => [(name, .empty)]

/-- A database with further collections and another supply of identifiers. -/
def extended (store : MemoryStore) (added : List (String × Collection))
    (supply : ObjectId.Supply) : MemoryStore :=
  { store with
    collections := store.collections ++ added
    supply := supply }

/-- To open a collection and to put back what was found leaves nothing but the
opened collection. -/
theorem put_target (store : MemoryStore) (name : String)
    (supply : ObjectId.Supply) :
    { store with supply := supply }.put name (store.target name) =
      store.extended (store.opening name) supply := by
  cases found : store.get? name with
  | some collection =>
      rw [target_of_get? found]
      simp only [put, extended, opening, found, List.append_nil]
      rw [putCollection_of_lookup found]
  | none =>
      have fresh : store.target name = .empty := by rw [target, found]; rfl
      rw [fresh]
      simp only [put, extended, opening, found]
      rw [putCollection_of_absent found]

/-! ## Writes that store nothing -/

/-- A write that fails puts back what it found. -/
theorem state_write_of_failure {Answer : Type} {supply : ObjectId.Supply}
    {change : Collection → Except StoreError (Collection × Answer)}
    {failure : StoreError}
    (failed : ({ store with supply := supply }.write name change).result =
      .error failure) :
    ({ store with supply := supply }.write name change).state =
        store.extended (store.opening name) supply ∧
      change (store.target name) = .error failure := by
  have found : ({ store with supply := supply }.get? name).getD .empty =
      store.target name := rfl
  simp only [write, found] at failed ⊢
  cases made : change (store.target name) with
  | ok outcome => simp [made] at failed
  | error reason =>
      simp only [made, Except.error.injEq] at failed ⊢
      exact ⟨put_target store name supply, failed⟩

/-- So does a write that has nothing to change. -/
theorem state_write_of_unchanged {Answer : Type} {supply : ObjectId.Supply}
    {change : Collection → Except StoreError (Collection × Answer)}
    {answer : Answer}
    (unchanged : change (store.target name) =
      .ok (store.target name, answer)) :
    ({ store with supply := supply }.write name change).state =
      store.extended (store.opening name) supply := by
  have found : ({ store with supply := supply }.get? name).getD .empty =
      store.target name := rfl
  simp only [write, found, unchanged]
  exact put_target store name supply

theorem state_modify_of_failure {Answer : Type} {absent : Answer}
    {change : Collection → Except StoreError (Collection × Answer)}
    {failure : StoreError}
    (failed : (store.modify name absent change).result = .error failure) :
    (store.modify name absent change).state = store := by
  unfold modify at failed ⊢
  split at failed
  · simp at failed
  · next collection found =>
      split at failed
      · simp at failed
      · rfl

theorem opening_of_target_ne_empty (used : store.target name ≠ .empty) :
    store.opening name = [] := by
  cases found : store.get? name with
  | some collection => rw [opening, found]
  | none => exact absurd (by rw [target, found]; rfl) used

/-- The collection that a call opens and leaves empty when it stores nothing.
A request for an index does so only if the name of the index is the one that
a new collection has already. -/
def founded (store : MemoryStore) : Call → List (String × Collection)
  | .batchInsert name _ _ | .update name _ _ _ => store.opening name
  | .ensureIndex name keys options =>
    if keys.isEmpty ∨
        (requestedIndex keys options).name ≠ Index.identityName then
      []
    else
      store.opening name
  | _ => []

theorem exists_insert_empty (document : Document) :
    ∃ next, Collection.empty.insert document = .ok next := by
  have allowed : Index.checkAll Collection.empty.indexes
      Collection.empty.documents document = .ok () :=
    Index.checkAll_eq_ok_iff.mpr fun index _ _ stored member => by
      simp [Collection.empty] at member
  simp [Collection.insert, bind, Except.bind, allowed, pure, Except.pure]

theorem exists_addIndex_empty (index : Index) :
    ∃ next, Collection.empty.addIndex index = .ok next := by
  have apart : index.separates Collection.empty.documents = true := rfl
  unfold Collection.addIndex
  split
  · exact ⟨_, rfl⟩
  · simp [apart]

/-! ## Calls that fail -/

/-- But for its trace line an insertion is a write. -/
theorem insert_eq_write (store : MemoryStore) (name : String)
    (document : Document) :
    let given := Identified.ofDocument store.supply document
    let reply := { store with supply := given.2 }.write name
      fun collection => (collection.insert given.1.document).map
        fun next => (next, some given.1.id)
    (store.insert name document).result = reply.result ∧
      (store.insert name document).state = reply.state := by
  simp only [insert]
  split
  · exact ⟨rfl, rfl⟩
  · exact ⟨rfl, rfl⟩

theorem state_insert_of_failure {document : Document} {failure : StoreError}
    (failed : (store.insert name document).result = .error failure) :
    (store.insert name document).state = store.extended []
      (Identified.ofDocument store.supply document).2 := by
  rcases insert_eq_write store name document with ⟨result, state⟩
  rw [result] at failed
  rcases state_write_of_failure failed with ⟨after, refused⟩
  rw [state, after, opening_of_target_ne_empty]
  -- Only a collection with documents can refuse one.
  intro fresh
  rcases exists_insert_empty
    (Identified.ofDocument store.supply document).1.document with
    ⟨next, stored⟩
  rw [fresh, stored] at refused
  cases refused

theorem state_insertAll_of_failure {documents : List Document}
    {failure : StoreError}
    (failed : (store.insertAll name documents).result = .error failure) :
    (store.insertAll name documents).state =
      store.extended (store.opening name)
        (Identified.ofDocuments store.supply documents).2 := by
  rw [insertAll_eq_write] at failed ⊢
  exact (state_write_of_failure failed).1

theorem state_update_of_failure {filter change options : Document}
    {failure : StoreError}
    (failed : (store.update name filter change options).result =
      .error failure) :
    (store.update name filter change options).state =
      store.extended (store.opening name)
        (newcomer store.supply filter change options).2 :=
  (state_write_of_failure failed).1

theorem state_ensureIndex_of_failure {keys options : Document}
    {failure : StoreError}
    (failed : (store.ensureIndex name keys options).result =
      .error failure) :
    (store.ensureIndex name keys options).state =
      store.extended (store.founded (.ensureIndex name keys options))
        store.supply := by
  cases keyless : keys.isEmpty with
  | true => simp [ensureIndex, founded, keyless, extended]
  | false =>
      simp only [ensureIndex, keyless, Bool.false_eq_true, if_false]
        at failed ⊢
      rcases @state_write_of_failure store name Bool store.supply _ failure
        failed with ⟨after, refused⟩
      have opened : store.opening name = [] := by
        apply opening_of_target_ne_empty
        intro fresh
        rcases exists_addIndex_empty (requestedIndex keys options) with
          ⟨next, added⟩
        rw [fresh, added] at refused
        cases refused
      rw [after, opened]
      simp [founded, opened]

/-- A collection that is not there is not dropped, nor is any other. -/
theorem dropCollection_of_absent (absent : store.get? name = none) :
    store.dropCollection name = (false, store) := by
  have kept : (store.collections.filter fun entry => entry.1 != name) =
      store.collections := by
    apply List.filter_eq_self.mpr
    intro entry member
    have different := List.lookup_eq_none_iff.mp absent entry member
    simpa [bne, BEq.comm] using different
  simp only [dropCollection, absent, Option.isSome_none]
  exact congrArg (fun collections => (false, { store with collections }))
    kept

theorem state_perform_of_failure {command : Command} {failure : StoreError}
    (failed : (store.perform command).1 = .error failure) :
    (store.perform command).2 = store := by
  cases command with
  | ping | count | listCollections => rfl
  | dropDatabase => cases failed
  | drop collection =>
      cases found : store.get? collection with
      | some present => simp [perform, dropCollection, found] at failed
      | none => simp [perform, dropCollection_of_absent found]

theorem state_runCommand_of_failure {command : Document}
    {failure : StoreError}
    (failed : (store.runCommand command).result = .error failure) :
    (store.runCommand command).state = store := by
  unfold runCommand at failed ⊢
  split
  · rfl
  · next read =>
      simp only [read] at failed
      exact state_perform_of_failure failed

/-! ## Calls that store nothing -/

theorem extended_nil (store : MemoryStore) :
    store.extended [] store.supply = store := by
  simp [extended]

/-- A call that fails leaves all collections as they were. -/
theorem state_of_failure {call : Call} {failure : StoreError}
    (failed : (store.answer call).result = .error failure) :
    ∃ supply, (store.answer call).state =
      store.extended (store.founded call) supply := by
  have untouched {next : MemoryStore} (same : next = store) :
      ∃ supply, next = store.extended [] supply :=
    ⟨store.supply, by rw [same, extended_nil]⟩
  cases call with
  | find | count | indexInfo => exact untouched rfl
  | insert => exact ⟨_, state_insert_of_failure failed⟩
  | batchInsert => exact ⟨_, state_insertAll_of_failure failed⟩
  | update => exact ⟨_, state_update_of_failure failed⟩
  | remove => exact untouched (state_modify_of_failure failed)
  | ensureIndex => exact ⟨_, state_ensureIndex_of_failure failed⟩
  | deleteIndex name keys =>
      apply untouched
      simp only [answer, deleteIndex] at failed ⊢
      split
      · rfl
      · next others =>
          rw [if_neg others] at failed
          exact state_modify_of_failure failed
  | deleteIndexes => exact untouched (state_modify_of_failure failed)
  | dropCollection => cases failed
  | runCommand => exact untouched (state_runCommand_of_failure failed)

/-- An update that finds nothing leaves the collection as it is, but for the
newcomer if there is one. -/
theorem update_of_find_nil {collection : Collection}
    {filter change : Document} {all : Bool}
    (searched : collection.find filter = .ok [])
    (newcomer : Option (Except StoreError Document)) :
    collection.update filter change all newcomer =
      match newcomer with
      | none => .ok (collection, ⟨0, 0⟩)
      | some made => made.bind fun document =>
          (collection.insert document).map fun next => (next, ⟨0, 0⟩) := by
  rcases Collection.find_eq_ok searched with ⟨nothing, marks⟩
  have unmarked : Marked.hits (collection.mark filter) = [] := by
    rw [Collection.mark, Marked.hits_mark, ← nothing]
  have concerned : ((if all then collection.mark filter
      else Marked.firstOnly (collection.mark filter)).any Marked.hit) =
      false := by
    apply Marked.hits_eq_nil_iff.mp
    cases all with
    | true => exact unmarked
    | false => simp [Marked.hits_firstOnly, unmarked]
  simp only [Collection.update, bind, marks all, Except.bind, concerned]
  rcases newcomer with _ | failure | document
  · rfl
  · rfl
  · cases collection.insert document <;> rfl

theorem state_update_of_select_nil {filter change options : Document}
    (searched : store.select name filter = .ok [])
    (plain : isSet options "upsert" = false) :
    (store.update name filter change options).state =
      store.extended (store.opening name) store.supply := by
  have noNewcomer : newcomer store.supply filter change options =
      (none, store.supply) := by
    simp [newcomer, plain]
  simp only [update, noNewcomer]
  apply state_write_of_unchanged
  exact update_of_find_nil
    ((select_eq_find store name filter).symm.trans searched) none

theorem state_insertAll_nil (store : MemoryStore) (name : String) :
    (store.insertAll name []).state =
      store.extended (store.opening name) store.supply := by
  rw [insertAll_eq_write]
  apply state_write_of_unchanged
  rfl

/-- A new collection knows no index but the one that all collections have. -/
theorem state_ensureIndex_of_known {keys options : Document}
    (known : (store.target name).hasIndex
      (requestedIndex keys options).name = true) :
    (store.ensureIndex name keys options).state =
      store.extended (store.founded (.ensureIndex name keys options))
        store.supply := by
  cases keyless : keys.isEmpty with
  | true => simp [ensureIndex, founded, keyless, extended]
  | false =>
      have unchanged : (store.target name).addIndex
          (requestedIndex keys options) = .ok (store.target name) := by
        rw [Collection.addIndex, if_pos known]
      simp only [ensureIndex, keyless, Bool.false_eq_true, if_false]
      have after : (store.write name fun collection => do
          let next ← collection.addIndex (requestedIndex keys options)
          return (next, true)).state =
            store.extended (store.opening name) store.supply := by
        apply state_write_of_unchanged
        simp only [bind, unchanged]
        rfl
      rw [after]
      by_cases identity :
          (requestedIndex keys options).name = Index.identityName
      · simp [founded, keyless, identity]
      · have used : store.target name ≠ .empty := by
          intro fresh
          rw [fresh] at known
          simp [Collection.hasIndex, Collection.empty, Index.identity,
            Ne.symm identity] at known
        simp [founded, opening_of_target_ne_empty used]

/-- A call stores neither a document nor an index: it fails, or it is an
update that finds nothing and is not to store anything then, a batch without
documents, or a request for an index under a name that is in use. -/
inductive StoresNothing (store : MemoryStore) : Call → Prop where
  | failed {call : Call} {failure : StoreError}
      (result : (store.answer call).result = .error failure) :
      StoresNothing store call
  | foundNothing {name : String} {filter change options : Document}
      (searched : store.select name filter = .ok [])
      (plain : isSet options "upsert" = false) :
      StoresNothing store (.update name filter change options)
  | gaveNothing {name : String} {options : Document} :
      StoresNothing store (.batchInsert name [] options)
  | knewIndex {name : String} {keys options : Document}
      (known : (store.target name).hasIndex
        (requestedIndex keys options).name = true) :
      StoresNothing store (.ensureIndex name keys options)

/-- A call that stores nothing leaves all collections as they were, and at
most an empty collection beside them. -/
theorem state_of_storesNothing {call : Call}
    (nothing : store.StoresNothing call) :
    ∃ supply, (store.answer call).state =
      store.extended (store.founded call) supply := by
  cases nothing with
  | failed result => exact state_of_failure result
  | foundNothing searched plain =>
      exact ⟨_, state_update_of_select_nil searched plain⟩
  | gaveNothing => exact ⟨_, state_insertAll_nil store _⟩
  | knewIndex known => exact ⟨_, state_ensureIndex_of_known known⟩

/-! ## What remains of it -/

theorem get?_extended {added : List (String × Collection)}
    {supply : ObjectId.Supply} {collection : Collection}
    (found : store.get? name = some collection) :
    (store.extended added supply).get? name = some collection := by
  simp only [get?, extended] at found ⊢
  rw [List.lookup_append, found]
  rfl

/-- A call that fails leaves every collection that was there, with the same
documents and indexes in the same order. -/
theorem collection_kept_of_failure {call : Call} {failure : StoreError}
    {collection : Collection}
    (failed : (store.answer call).result = .error failure)
    (found : store.get? name = some collection) :
    (store.answer call).state.get? name = some collection := by
  rcases state_of_failure failed with ⟨supply, state⟩
  rw [state]
  exact get?_extended found

/-- The first document of a batch is stored before the second one is refused,
and taken back. -/
theorem collection_kept_of_failure_shifted :
    ∃ collection, shiftedStore.get? "c" = some collection ∧
      (shiftedStore.answer (.batchInsert "c"
        [[("_id", .ofInt 3), ("a", .ofInt 9)],
          [("_id", .ofInt 4), ("a", .ofInt 2)]] [])).result =
        .error (.rejected (.duplicateKey "a_1")) ∧
      (shiftedStore.answer (.batchInsert "c"
        [[("_id", .ofInt 3), ("a", .ofInt 9)],
          [("_id", .ofInt 4), ("a", .ofInt 2)]] [])).state.get? "c" =
        some collection :=
  ⟨_, rfl, rfl, collection_kept_of_failure rfl rfl⟩

theorem names_extended_perm (store : MemoryStore)
    (added : List (String × Collection)) (supply : ObjectId.Supply) :
    (store.extended added supply).names.Perm
      (added.map Prod.fst ++ store.names) := by
  have entries : (store.extended added supply).names.Perm
      (store.collections.map Prod.fst ++ added.map Prod.fst) := by
    rw [← List.map_append]
    exact List.mergeSort_perm _ _
  have sorted : store.names.Perm (store.collections.map Prod.fst) :=
    List.mergeSort_perm _ _
  exact (entries.trans List.perm_append_comm).trans
    (sorted.symm.append_left _)

theorem names_extended_eq_iff {added : List (String × Collection)}
    {supply : ObjectId.Supply} :
    (store.extended added supply).names = store.names ↔ added = [] := by
  constructor
  · intro same
    have lengths := (names_extended_perm store added supply).length_eq
    rw [same, List.length_append, List.length_map] at lengths
    exact List.length_eq_zero_iff.mp (by omega)
  · rintro rfl
    simp [names, extended]

/-- Commands do not see the supply of identifiers. -/
theorem result_runCommand_extended_nil (store : MemoryStore)
    (supply : ObjectId.Supply) (command : Document) :
    ((store.extended [] supply).runCommand command).result =
      (store.runCommand command).result := by
  have collections : store.collections ++ [] = store.collections :=
    List.append_nil _
  simp only [extended, collections]
  unfold runCommand
  cases Command.ofDocument command with
  | error failure => rfl
  | ok command =>
      cases command with
      | drop name =>
          simp only [perform, dropCollection, get?]
          cases (store.collections.lookup name).isSome <;> rfl
      | _ => rfl

/-- A call that stores nothing leaves the names of the collections as they
were exactly when it does not open a collection that was not there.  Then no
command can tell the difference; otherwise there is one name more. -/
theorem names_eq_iff_of_storesNothing {call : Call}
    (nothing : store.StoresNothing call) :
    ((store.answer call).state.names = store.names ↔
        store.founded call = []) ∧
      (store.founded call = [] → ∀ command,
        ((store.answer call).state.answer (.runCommand command)).result =
          (store.answer (.runCommand command)).result) ∧
      (store.answer call).state.names.Perm
        ((store.founded call).map Prod.fst ++ store.names) := by
  rcases state_of_storesNothing nothing with ⟨supply, state⟩
  rw [state]
  refine ⟨names_extended_eq_iff, ?_, names_extended_perm ..⟩
  intro none command
  rw [none]
  exact result_runCommand_extended_nil store supply command

/-- A batch is refused and leaves a collection behind; in a collection that is
there it leaves nothing. -/
theorem names_eq_iff_of_storesNothing_clash :
    ((empty "sample" default).answer (.batchInsert "c"
        [[("_id", .ofInt 1)], [("_id", .ofInt 1)]] [])).result =
        .error (.rejected (.duplicateKey "_id_")) ∧
      ((empty "sample" default).answer (.batchInsert "c"
        [[("_id", .ofInt 1)], [("_id", .ofInt 1)]] [])).state.names ≠
        (empty "sample" default).names ∧
      (shiftedStore.answer (.batchInsert "c"
        [[("_id", .ofInt 3)], [("_id", .ofInt 3)]] [])).state.names =
        shiftedStore.names := by
  refine ⟨rfl, ?_, ?_⟩
  · intro same
    have opened := (names_eq_iff_of_storesNothing (.failed rfl)).1.mp same
    exact absurd opened (by simp [founded, opening, empty, get?])
  · exact (names_eq_iff_of_storesNothing (.failed rfl)).1.mpr rfl

end MemoryStore

end DocQuery
