import DocQuery.Proofs.Store.Effect

/-!
# Sound collections

What holds of every collection in every state of a store that calls lead to,
whether the calls succeeded or failed: the index over `_id` is there, indexes
have different names and paths to be over, and unique indexes keep the
documents apart.
-/

namespace DocQuery

open Store (Call)

/-- What the calls of a store preserve of a collection. -/
structure Collection.Sound (collection : Collection) : Prop where
  /-- One index has the name of the identity index, and it is that index. -/
  identity :
    collection.indexes.filter (fun index => index.name == Index.identityName) =
      [Index.identity]
  distinct : (collection.indexes.map Index.name).Nodup
  keyed : ∀ index ∈ collection.indexes, index.key ≠ []
  proper : AllWellFormed collection.documents
  separated : collection.Separated

namespace Collection

variable {collection next : Collection} {discards : Bool}

theorem hasIndex_eq_false_iff {name : String} :
    collection.hasIndex name = false ↔
      name ∉ collection.indexes.map Index.name := by
  simp [hasIndex]

theorem sound_empty : Sound .empty where
  identity := rfl
  distinct := by simp [empty]
  keyed := by simp [empty, Index.identity]
  proper := allWellFormed_nil
  separated := by simp [Separated, Index.KeepsApart, empty]

theorem Sound.identity_mem (sound : collection.Sound) :
    Index.identity ∈ collection.indexes := by
  have member : Index.identity ∈ collection.indexes.filter
      fun index => index.name == Index.identityName := by
    rw [sound.identity]
    exact List.mem_singleton_self _
  exact List.mem_of_mem_filter member

theorem Sound.withDocuments (sound : collection.Sound)
    {documents : List Document} (proper : AllWellFormed documents)
    (separated : (collection.withDocuments documents).Separated) :
    (collection.withDocuments documents).Sound where
  identity := sound.identity
  distinct := sound.distinct
  keyed := sound.keyed
  proper := proper
  separated := separated

theorem Sound.withIndex (sound : collection.Sound) {index : Index}
    (keyed : index.key ≠ []) (fresh : collection.hasIndex index.name = false)
    (separated : (collection.withIndex index).Separated) :
    (collection.withIndex index).Sound where
  identity := by
    have different : index.name ≠ Index.identityName := by
      intro same
      rw [same, hasIndex_eq_false_iff] at fresh
      exact fresh (List.mem_map_of_mem sound.identity_mem)
    simpa [List.filter_append, different] using sound.identity
  distinct := by
    rw [indexes_withIndex, List.map_append, List.nodup_append']
    refine ⟨sound.distinct, by simp, ?_⟩
    simpa using hasIndex_eq_false_iff.mp fresh
  keyed := by
    intro other member
    rcases List.mem_append.mp member with old | new
    · exact sound.keyed other old
    · rcases List.mem_singleton.mp new with rfl
      exact keyed
  proper := sound.proper
  separated := separated

theorem Sound.keepIndexes (sound : collection.Sound) {keep : String → Bool}
    (identity : keep Index.identityName = true) :
    (collection.keepIndexes keep).Sound where
  identity := by
    rw [← sound.identity]
    simp only [Collection.keepIndexes, List.filter_filter]
    apply List.filter_congr
    intro index _
    by_cases same : index.name = Index.identityName
    · simp [same, identity]
    · simp [same]
  distinct := sound.distinct.sublist (List.filter_sublist.map Index.name)
  keyed := fun index member =>
    sound.keyed index (List.mem_of_mem_filter member)
  proper := sound.proper
  separated := fun index member unique =>
    sound.separated index (List.mem_of_mem_filter member) unique

theorem Sound.step (sound : collection.Sound)
    (step : Step discards collection next) : next.Sound := by
  cases step with
  | kept => exact sound
  | stored proper separated => exact sound.withDocuments proper separated
  | indexed keyed fresh separated =>
      exact sound.withIndex keyed fresh separated
  | unindexed identity allowed => exact sound.keepIndexes identity

end Collection

namespace MemoryStore

variable {store later : MemoryStore} {name : String}

/-- Every collection of a store is sound. -/
def Sound (store : MemoryStore) : Prop :=
  ∀ name collection, store.get? name = some collection → collection.Sound

/-- A collection that is not there yet is sound too. -/
theorem Sound.target (sound : store.Sound) (name : String) :
    (store.target name).Sound := by
  cases found : store.get? name with
  | none =>
      rw [MemoryStore.target, found]
      exact Collection.sound_empty
  | some collection =>
      rw [target_of_get? found]
      exact sound name collection found

theorem sound_empty (database : String) (supply : ObjectId.Supply) :
    (empty database supply).Sound := by
  intro name collection found
  simp [empty, get?] at found

theorem Sound.passage (sound : store.Sound) (call : Call)
    (proper : call.WellFormed) (name : String) :
    Passage (call.discards name) (store.get? name)
      ((store.answer call).state.get? name) :=
  passage_answer (fun name => (sound.target name).proper)
    (fun name => (sound.target name).separated) call proper name

/-- No call makes a collection unsound. -/
theorem Sound.answer (sound : store.Sound) (call : Call)
    (proper : call.WellFormed) : (store.answer call).state.Sound := by
  intro name collection found
  have passage := sound.passage call proper name
  rw [found] at passage
  generalize before : store.get? name = found at passage
  cases passage with
  | untouched => exact sound name collection before
  | written step =>
      subst before
      exact (sound.target name).step step

theorem Sound.reaches {allowed : Call → Prop} (sound : store.Sound)
    (reaches : Reaches allowed store later) : later.Sound := by
  induction reaches with
  | start => exact sound
  | call _ call proper _ ih => exact ih.answer call proper
  | restock _ supply ih => exact ih

theorem Reachable.sound (reachable : Reachable store) : store.Sound := by
  rcases reachable with ⟨database, supply, reaches⟩
  exact (sound_empty database supply).reaches reaches

/-- In every state that calls lead to, a collection has one index of the name
`_id_`, which is unique and over `_id`, its indexes have different names and
nonempty keys, and no two documents at different positions have the same
values at all paths of a unique index. -/
theorem collection_of_reachable {collection : Collection}
    (reachable : Reachable store) (found : store.get? name = some collection) :
    collection.indexes.filter (fun index => index.name == "_id_") =
        [⟨"_id_", [("_id", .ofInt 1)], true⟩] ∧
      (collection.indexes.map Index.name).Nodup ∧
      (∀ index ∈ collection.indexes, index.key ≠ []) ∧
      ∀ index ∈ collection.indexes, index.unique = true →
        ∀ (first second : Nat) (left right : Document), first ≠ second →
          collection.documents[first]? = some left →
            collection.documents[second]? = some right →
              ¬ AgreeOn index.key left right := by
  have sound := reachable.sound name collection found
  refine ⟨sound.identity, sound.distinct, sound.keyed, ?_⟩
  intro index member unique first second left right different leftAt rightAt
  exact sound.separated.not_agreeOn member unique different leftAt rightAt

/-- Two documents are stored, their values of `a` made unique and shifted, and
a third document refused. -/
def shiftedStore : MemoryStore :=
  (empty "sample" default).run
    [.insert "c" [("_id", .ofInt 1), ("a", .ofInt 1)] [],
      .insert "c" [("_id", .ofInt 2), ("a", .ofInt 2)] [],
      .ensureIndex "c" [("a", .ofInt 1)] [("unique", .boolean true)],
      .update "c" [] [("$inc", .document [("a", .ofInt 1)])]
        [("multiple", .boolean true)],
      .insert "c" [("_id", .ofInt 3), ("a", .ofInt 3)] []]

theorem collection_of_reachable_shifted :
    ∃ collection, Reachable shiftedStore ∧
      shiftedStore.get? "c" = some collection ∧
      (collection.indexes.map Index.name).Nodup ∧
      ¬ AgreeOn [("a", .ofInt 1)] [("_id", .ofInt 1), ("a", .ofInt 2)]
        [("_id", .ofInt 2), ("a", .ofInt 3)] := by
  have reachable : Reachable shiftedStore :=
    Reachable.run_empty "sample" default (by decide)
  have found : shiftedStore.get? "c" = some
      ⟨[[("_id", .ofInt 1), ("a", .ofInt 2)],
          [("_id", .ofInt 2), ("a", .ofInt 3)]],
        [Index.identity, ⟨"a_1", [("a", .ofInt 1)], true⟩]⟩ := rfl
  rcases collection_of_reachable reachable found with ⟨-, distinct, -, apart⟩
  exact ⟨_, reachable, found, distinct,
    apart ⟨"a_1", [("a", .ofInt 1)], true⟩ (by simp) rfl 0 1 _ _ (by decide)
      rfl rfl⟩

end MemoryStore

end DocQuery
