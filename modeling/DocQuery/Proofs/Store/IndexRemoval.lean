import DocQuery.Proofs.Store.IndexName
import DocQuery.Proofs.Store.Rewriting
import DocQuery.Proofs.Store.Transition

/-!
# Removing an index

An index is asked for and removed by a key, but its collection knows it by a
name, which may be given and is otherwise made of the key.  The removal goes by
the name that is made of the key.  So the index over the key goes, and no
other, exactly if this is the name of all indexes over the key and of no others.

That is so as long as indexes are not given names of their own and no field
name has a piece that reads as a direction.
-/

namespace DocQuery

open Store (Call)

/-! ## Where indexes come from -/

/-- Where an index comes from that a collection has after a call of a store. -/
inductive IndexOrigin (store : MemoryStore) (call : Call) (name : String) :
    Index → Prop where
  | kept {index : Index} (member : index ∈ (store.target name).indexes) :
      IndexOrigin store call name index
  | identity : IndexOrigin store call name Index.identity
  | requested {keys options : Document}
      (asked : call = .ensureIndex name keys options) (given : keys ≠ []) :
      IndexOrigin store call name (MemoryStore.requestedIndex keys options)

namespace Collection

variable {collection next : Collection}

theorem indexes_of_insertAll {documents : List Document}
    (stored : collection.insertAll documents = .ok next) :
    next.indexes = collection.indexes := by
  induction documents generalizing collection with
  | nil =>
      rcases Except.ok.inj stored with rfl
      rfl
  | cons document rest ih =>
      rw [insertAll_cons, bind_eq_ok_iff] at stored
      rcases stored with ⟨middle, first, others⟩
      rw [ih others, indexes_of_insert first]

theorem indexes_of_update {filter change : Document} {all : Bool}
    {newcomer : Option (Except StoreError Document)} {report : UpdateReport}
    (updated : collection.update filter change all newcomer =
      .ok (next, report)) :
    next.indexes = collection.indexes := by
  rcases rewrites_or_inserts_of_update updated with
    ⟨-, same⟩ | ⟨-, -, ⟨-, rfl⟩ | ⟨made, -, stored⟩⟩
  · exact same
  · rfl
  · exact indexes_of_insert stored

theorem indexes_of_remove {filter : Document} {all : Bool}
    (removed : collection.remove filter all = .ok next) :
    next.indexes = collection.indexes := by
  simp only [remove, bind, bind_eq_ok_iff] at removed
  rcases removed with ⟨marked, -, made⟩
  rcases Except.ok.inj made with rfl
  rfl

theorem mem_indexes_of_addIndex {index added : Index}
    (done : collection.addIndex added = .ok next)
    (member : index ∈ next.indexes) :
    index ∈ collection.indexes ∨ index = added := by
  unfold addIndex at done
  split at done
  · rcases Except.ok.inj done with rfl
    exact Or.inl member
  · split at done
    · simp at done
    · rcases Except.ok.inj done with rfl
      simpa using member

end Collection

namespace MemoryStore

variable {store : MemoryStore} {name : String} {index : Index} {call : Call}

/-- Every index that a call leaves in a collection has an origin. -/
theorem indexOrigin_of_transition {next : Collection}
    (transition : Transition store name call next)
    (member : index ∈ next.indexes) : IndexOrigin store call name index := by
  cases transition with
  | kept => exact IndexOrigin.kept member
  | dropped =>
      rcases List.mem_singleton.mp member with rfl
      exact IndexOrigin.identity
  | inserted stored =>
      rw [Collection.indexes_of_insert stored] at member
      exact IndexOrigin.kept member
  | batchInserted stored =>
      rw [Collection.indexes_of_insertAll stored] at member
      exact IndexOrigin.kept member
  | updated updated =>
      rw [Collection.indexes_of_update updated] at member
      exact IndexOrigin.kept member
  | removed removed =>
      rw [Collection.indexes_of_remove removed] at member
      exact IndexOrigin.kept member
  | indexed given added =>
      rcases Collection.mem_indexes_of_addIndex added member with old | rfl
      · exact IndexOrigin.kept old
      · exact IndexOrigin.requested rfl given
  | unindexed keep => exact IndexOrigin.kept (List.mem_of_mem_filter member)

/-- What holds of the identity index and of every index that a call of a run
asks for holds of all indexes of a collection. -/
theorem index_holds_of_reaches (Invariant : Index → Prop)
    {allowed : Call → Prop} {database : String} {supply : ObjectId.Supply}
    (identity : Invariant Index.identity)
    (requested : ∀ {keys options},
      allowed (.ensureIndex name keys options) → keys ≠ [] →
        Invariant (requestedIndex keys options))
    (reaches : Reaches allowed (empty database supply) store)
    (index : Index) (member : index ∈ (store.target name).indexes) :
    Invariant index := by
  induction reaches generalizing index with
  | start =>
      have new : (empty database supply).target name = .empty := rfl
      rw [new] at member
      rcases List.mem_singleton.mp member with rfl
      exact identity
  | @call store _ call _ permitted ih =>
      cases indexOrigin_of_transition (transition_answer store call name)
        member with
      | kept old => exact ih index old
      | identity => exact identity
      | requested asked given =>
          subst asked
          exact requested permitted given
  | restock _ supply ih => exact ih index member

/-! ## The removal -/

/-- The indexes over the fields of a key in their order and directions, but
for the identity index, go from a collection and all others stay as they are,
and the answer says whether there was one. -/
structure RemovesIndexOver (store : MemoryStore) (name : String)
    (key : Document) : Prop where
  gone : ∀ index ∈ ((store.deleteIndex name key).state.target name).indexes,
    index.name ≠ Index.identityName →
      Index.directed index.key ≠ Index.directed key
  kept : ∀ index ∈ (store.target name).indexes,
    Index.directed index.key ≠ Index.directed key →
      index ∈ ((store.deleteIndex name key).state.target name).indexes
  answered : ∃ answer, (store.deleteIndex name key).result = .ok answer ∧
    (answer = true ↔ ∃ index ∈ (store.target name).indexes,
      Index.directed index.key = Index.directed key)

section

variable {key : Document} (others : key.keys ≠ ["_id"])

include others

/-- The removal takes what has the name of the key. -/
theorem indexes_deleteIndex (store : MemoryStore) (name : String) :
    ((store.deleteIndex name key).state.target name).indexes =
      (store.target name).indexes.filter fun index =>
        index.name != Index.nameOf key := by
  simp only [deleteIndex, if_neg others, modify]
  cases found : store.get? name with
  | none =>
      have different : Index.identityName ≠ Index.nameOf key :=
        (Index.nameOf_ne_identityName key).symm
      simp [target_of_absent found, Collection.empty, Index.identity,
        different]
  | some collection =>
      simp only [target_put_self, target_of_get? found]
      rfl

theorem result_deleteIndex (store : MemoryStore) (name : String) :
    (store.deleteIndex name key).result =
      .ok ((store.target name).hasIndex (Index.nameOf key)) := by
  simp only [deleteIndex, if_neg others, modify]
  cases found : store.get? name with
  | none =>
      have different : Index.identityName ≠ Index.nameOf key :=
        (Index.nameOf_ne_identityName key).symm
      simp [target_of_absent found, Collection.hasIndex, Collection.empty,
        Index.identity, different]
  | some collection => simp only [target_of_get? found]

theorem directed_identity_ne :
    Index.directed Index.identity.key ≠ Index.directed key := by
  intro same
  apply others
  rw [← Index.map_fst_directed, ← same]
  rfl

/-- The removal is right about a key exactly if the name of the key is the
name of the indexes over it, and of no others. -/
theorem removesIndexOver_iff_of_sound (sound : store.Sound) :
    RemovesIndexOver store name key ↔
      ∀ index ∈ (store.target name).indexes,
        index.name = Index.nameOf key ↔
          Index.directed index.key = Index.directed key := by
  constructor
  · intro removes index member
    constructor
    · intro named
      by_contra different
      have kept := removes.kept index member different
      rw [indexes_deleteIndex others, List.mem_filter] at kept
      simp [named] at kept
    · intro same
      by_contra named
      have left : index ∈
          ((store.deleteIndex name key).state.target name).indexes := by
        rw [indexes_deleteIndex others, List.mem_filter]
        exact ⟨member, by simpa using named⟩
      -- Only the identity index may stay, and it is over another key.
      have isIdentity : index.name = Index.identityName := by
        by_contra ordinary
        exact removes.gone index left ordinary same
      have found : index ∈ (store.target name).indexes.filter
          fun index => index.name == Index.identityName :=
        List.mem_filter.mpr ⟨member, by simpa using isIdentity⟩
      rw [(sound.target name).identity, List.mem_singleton] at found
      subst found
      exact directed_identity_ne others same
  · intro tells
    constructor
    · intro index left _ same
      rw [indexes_deleteIndex others, List.mem_filter] at left
      have named := (tells index left.1).mpr same
      simp [named] at left
    · intro index member different
      rw [indexes_deleteIndex others, List.mem_filter]
      have named := mt (tells index member).mp different
      exact ⟨member, by simpa using named⟩
    · refine ⟨_, result_deleteIndex others store name, ?_⟩
      simp only [Collection.hasIndex, List.any_eq_true, beq_iff_eq]
      constructor
      · rintro ⟨index, member, named⟩
        exact ⟨index, member, (tells index member).mp named⟩
      · rintro ⟨index, member, same⟩
        exact ⟨index, member, (tells index member).mpr same⟩

end

end MemoryStore

/-- A call does not ask for an index of a collection with a name of its own or
over a field whose name has a piece that reads as a direction. -/
def Store.Call.namesPlainly (name : String) : Call → Bool
  | .ensureIndex collection keys options =>
    collection != name ||
      Index.isPlain keys && match options.get? "name" with
        | some (.string _) => false
        | _ => true
  | _ => true

/-- The identity index, or an index with the name that is made of its key,
which is over plain fields. -/
def Index.NamedPlainly (index : Index) : Prop :=
  index = .identity ∨
    index.key ≠ [] ∧ isPlain index.key = true ∧ index.name = nameOf index.key

namespace MemoryStore

variable {store : MemoryStore} {name : String} {key : Document}

theorem namedPlainly_requestedIndex {keys options : Document}
    (given : keys ≠ [])
    (allowed : (Call.ensureIndex name keys options).namesPlainly name = true) :
    (requestedIndex keys options).NamedPlainly := by
  simp only [Call.namesPlainly, bne_self_eq_false, Bool.false_or,
    Bool.and_eq_true] at allowed
  rcases allowed with ⟨plain, unnamed⟩
  refine Or.inr ⟨given, plain, ?_⟩
  cases found : options.get? "name" with
  | none => simp only [requestedIndex, found]
  | some value =>
      cases value with
      | string text => simp [found] at unnamed
      | _ => simp only [requestedIndex, found]

/-- All indexes of a collection are named plainly if all that are asked for
are. -/
theorem namedPlainly_of_reaches {database : String}
    {supply : ObjectId.Supply}
    (reaches : Reaches (fun call => call.namesPlainly name = true)
      (empty database supply) store)
    (index : Index) (member : index ∈ (store.target name).indexes) :
    index.NamedPlainly := by
  refine index_holds_of_reaches Index.NamedPlainly (Or.inl rfl) ?_ reaches
    index member
  intro keys options allowed given
  exact namedPlainly_requestedIndex given allowed

/-- In every state that calls lead to, the removal of the index over a key is
right exactly if the name made of the key is the name of the indexes over it
and of no others.  So it is if indexes were asked for without names of their
own, and over plain fields only as those of the key are. -/
theorem removesIndexOver_of_reachable (reachable : Reachable store)
    (name : String) (given : key ≠ []) (others : key.keys ≠ ["_id"]) :
    (RemovesIndexOver store name key ↔
      ∀ index ∈ (store.target name).indexes,
        index.name = Index.nameOf key ↔
          Index.directed index.key = Index.directed key) ∧
      ∀ database supply,
        Reaches (fun call => call.namesPlainly name = true)
          (empty database supply) store →
        Index.isPlain key = true → RemovesIndexOver store name key := by
  constructor
  · exact removesIndexOver_iff_of_sound others reachable.sound
  intro database supply reaches plain
  rw [removesIndexOver_iff_of_sound others reachable.sound]
  intro index member
  rcases namedPlainly_of_reaches reaches index member with
    rfl | ⟨keyed, indexPlain, named⟩
  · have unnamed : Index.identity.name ≠ Index.nameOf key :=
      (Index.nameOf_ne_identityName key).symm
    have different := directed_identity_ne others
    constructor
    · exact fun same => absurd same unnamed
    · exact fun same => absurd same different
  · rw [named]
    exact Index.nameOf_eq_iff keyed given indexPlain plain

/-- One index with a name of its own, and one whose field name reads as two
fields. -/
def oddlyNamedStore : MemoryStore :=
  (empty "sample" default).run
    [.ensureIndex "c" [("a", .ofInt 1)] [("name", .string "x")],
      .ensureIndex "c" [("a_1_b", .ofInt 1)] []]

/-- Two indexes over the same fields in different orders. -/
def plainlyNamedStore : MemoryStore :=
  (empty "sample" default).run
    [.ensureIndex "c" [("a", .ofInt 1), ("b", .ofInt (-1))] [],
      .ensureIndex "c" [("b", .ofInt (-1)), ("a", .ofInt 1)] []]

/-- The index over `a` is not found under its own name, that over `a` and `b`
is mistaken for another one, and of two indexes that are named plainly the
right one goes. -/
theorem removesIndexOver_of_reachable_named :
    ¬ RemovesIndexOver oddlyNamedStore "c" [("a", .ofInt 1)] ∧
      ¬ RemovesIndexOver oddlyNamedStore "c"
        [("a", .ofInt 1), ("b", .ofInt 1)] ∧
      RemovesIndexOver plainlyNamedStore "c"
        [("b", .ofInt (-1)), ("a", .ofInt 1)] := by
  have odd : Reachable oddlyNamedStore :=
    Reachable.run_empty "sample" default (by decide)
  have plain : Reaches (fun call => call.namesPlainly "c" = true)
      (empty "sample" default) plainlyNamedStore :=
    Reaches.run _ (by decide) (by decide)
  have reachable : Reachable plainlyNamedStore :=
    Reachable.run_empty "sample" default (by decide)
  have indexes : (oddlyNamedStore.target "c").indexes =
      [Index.identity, ⟨"x", [("a", .ofInt 1)], false⟩,
        ⟨"a_1_b_1", [("a_1_b", .ofInt 1)], false⟩] := rfl
  refine ⟨?_, ?_, ?_⟩
  · rw [(removesIndexOver_of_reachable odd "c" (by simp) (by decide)).1,
      indexes]
    decide
  · rw [(removesIndexOver_of_reachable odd "c" (by simp) (by decide)).1,
      indexes]
    decide
  · exact (removesIndexOver_of_reachable reachable "c" (by simp)
      (by decide)).2 "sample" default plain (by decide)

end MemoryStore

end DocQuery
