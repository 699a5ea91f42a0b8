import DocQuery.Proofs.Document.Path
import DocQuery.Proofs.Store.Soundness

/-!
# What a promised index is worth

A call for a unique index is granted either because the index is added or
because its name is in use.  In the second case nothing is added, whatever
the index of that name is over and whether or not it is unique.  Later calls
then keep apart the documents that the promised index would keep apart only
if the unique indexes that are there do so anyway: when they do not, calls
that leave all indexes alone store two documents with the same key.
-/

namespace DocQuery

open Store (Call)

/-! ## Documents before and after they get an identifier -/

namespace Document

variable {document : Document} {name : String}

theorem valueAt_cons_objectId {path : String} (id : ObjectId)
    (absent : document.get? name = none) (other : path ≠ name) :
    valueAt ((name, .objectId id) :: document) path =
      document.valueAt path := by
  have names : pathNames path ≠ [name] :=
    fun one => other (pathNames_eq_singleton one)
  simp only [valueAt, getPath?, follow?_cons_objectId id absent names]

theorem valueAt_id (document : Document) :
    document.valueAt "_id" = (document.get? "_id").getD .null := by
  have readable : isReadablePath "_id" = true := by decide +kernel
  have names : pathNames "_id" = ["_id"] := by decide +kernel
  simp [valueAt, getPath?, readable, names, follow?]

end Document

/-- An identifier that does not agree with a value. -/
def Value.stranger : Value → ObjectId
  | .objectId id => ⟨id.bytes + 1⟩
  | _ => default

theorem Value.agrees_stranger (value : Value) :
    value.agrees (.objectId value.stranger) = false ∧
      (Value.objectId value.stranger).agrees value = false := by
  cases value with
  | objectId id =>
      have different : id ≠ ⟨id.bytes + 1⟩ := by
        intro same
        simpa using congrArg ObjectId.bytes same
      constructor
      · simpa [agrees, isNumber, equals, stranger] using different
      · simpa [agrees, isNumber, equals, stranger] using different.symm
  | _ => constructor <;> simp [agrees, isNumber, equals]

/-- A document beside another one, with an identifier that the other one does
not have unless it has one of its own. -/
def Document.besides (document other : Document) : Document :=
  (Identified.ofDocument ⟨(other.valueAt "_id").stranger⟩ document).1.document

namespace Document

variable {document left right : Document}

theorem besides_of_some {id : Value} (other : Document)
    (found : document.get? "_id" = some id) :
    document.besides other = document := by
  simp [besides, Identified.ofDocument, found]

theorem besides_of_none (other : Document)
    (absent : document.get? "_id" = none) :
    document.besides other =
      ("_id", .objectId (other.valueAt "_id").stranger) :: document := by
  simp [besides, Identified.ofDocument, absent]

theorem valueAt_besides {path : String} (other : Document)
    (elsewhere : path ≠ "_id") :
    (document.besides other).valueAt path = document.valueAt path := by
  cases found : document.get? "_id" with
  | some id => rw [besides_of_some other found]
  | none =>
      rw [besides_of_none other found]
      exact valueAt_cons_objectId _ found elsewhere

/-- Documents that differ in their identifiers, one of which may be missing,
still do so when both have one. -/
theorem besides_differ
    (differ : (left.valueAt "_id").agrees (right.valueAt "_id") = false) :
    ((left.besides right).valueAt "_id").agrees
      ((right.besides left).valueAt "_id") = false := by
  cases leftFound : left.get? "_id" with
  | some leftId =>
      rw [besides_of_some right leftFound]
      cases rightFound : right.get? "_id" with
      | some rightId =>
          rw [besides_of_some left rightFound]
          exact differ
      | none =>
          rw [besides_of_none left rightFound, valueAt_id (_ :: right)]
          exact (Value.agrees_stranger (left.valueAt "_id")).1
  | none =>
      cases rightFound : right.get? "_id" with
      | some rightId =>
          rw [besides_of_none right leftFound, besides_of_some left rightFound,
            valueAt_id (_ :: left)]
          exact (Value.agrees_stranger (right.valueAt "_id")).2
      | none =>
          rw [valueAt_id, valueAt_id, leftFound, rightFound] at differ
          simp [Value.agrees, Value.isNumber, Value.equals] at differ

/-- Identifiers that two different documents lack have no part in what they
agree on. -/
theorem agreeOn_besides_iff {key : Document}
    (differ : (left.valueAt "_id").agrees (right.valueAt "_id") = false) :
    AgreeOn key (left.besides right) (right.besides left) ↔
      AgreeOn key left right := by
  apply forall₂_congr
  intro entry _
  by_cases elsewhere : entry.1 = "_id"
  · rw [elsewhere, besides_differ differ, differ]
  · rw [valueAt_besides right elsewhere, valueAt_besides left elsewhere]

end Document

/-! ## Calls that leave indexes alone -/

namespace Collection

/-- Two documents with the same values at all paths of a key have the same
values at all paths of a unique index. -/
def Enforces (collection : Collection) (key : Document) : Prop :=
  ∀ left right : Document, left.wellFormed = true → right.wellFormed = true →
    AgreeOn key left right →
      ∃ index ∈ collection.indexes,
        index.unique = true ∧ AgreeOn index.key left right

theorem select_empty_filter (collection : Collection) :
    collection.select [] true =
      .ok (collection.documents.map fun document => ⟨document, true⟩) := by
  have marks : ∀ documents : List Document, Marked.ofFilter [] documents =
      .ok (documents.map fun document => ⟨document, true⟩) := by
    intro documents
    induction documents with
    | nil => rfl
    | cons document rest ih =>
        simp only [Marked.ofFilter, ih]
        rfl
  simp only [select, marks]
  rfl

theorem remove_empty_filter (collection : Collection) :
    collection.remove [] true = .ok (collection.withDocuments []) := by
  have none : Marked.misses (collection.documents.map fun document =>
      (⟨document, true⟩ : Marked)) = [] := by
    simp [Marked.misses]
  simp only [remove, select_empty_filter]
  show Except.ok _ = _
  rw [none]
  rfl

theorem Step.indexes_subset {before next : Collection}
    (step : Step false before next) : before.indexes ⊆ next.indexes := by
  cases step with
  | kept | stored => exact List.Subset.refl _
  | indexed => exact List.subset_append_left _ _
  | unindexed _ allowed => exact Bool.noConfusion allowed

end Collection

namespace MemoryStore

variable {store later : MemoryStore} {name : String}
  {collection : Collection}

/-- Indexes stay as long as no call does away with them. -/
theorem exists_indexes_subset_of_reaches (sound : store.Sound)
    (found : store.get? name = some collection)
    (reaches : Reaches (fun call => call.discards name = false) store later) :
    ∃ next, later.get? name = some next ∧
      collection.indexes ⊆ next.indexes := by
  induction reaches with
  | start => exact ⟨collection, found, List.Subset.refl _⟩
  | @call middle reached call proper permitted ih =>
      rcases ih with ⟨before, beforeFound, subset⟩
      have passage := (sound.reaches reached).passage call proper name
      rw [permitted, beforeFound] at passage
      generalize (middle.answer call).state.get? name = after at passage ⊢
      cases passage with
      | untouched => exact ⟨before, rfl, subset⟩
      | written step =>
          exact ⟨_, rfl, List.Subset.trans subset step.indexes_subset⟩
      | dropped allowed => exact Bool.noConfusion allowed
  | restock _ supply ih => exact ih

theorem get?_of_settled {Answer : Type} {intended : Collection}
    {reply : Store.Reply MemoryStore Answer}
    (settled : Settled store name intended reply)
    (separated : intended.Separated) :
    reply.state.get? name = some intended := by
  cases settled with
  | accepted _ _ _ left => exact left
  | refused index member unique clash =>
      exact absurd (separated index member unique) clash

/-- A collection can be emptied. -/
theorem exists_reaches_empty (found : store.get? name = some collection) :
    ∃ next,
      Reaches (fun call => call.discards name = false) store next ∧
        next.get? name = some (collection.withDocuments []) := by
  refine ⟨(store.answer (.remove name [] [])).state, ?_, ?_⟩
  · refine Reaches.call Reaches.start _ ?_ rfl
    simp [Call.WellFormed, Call.documents]
  · have all : (!isSet [] "justOne") = true := rfl
    simp only [answer, remove, modify, found, all,
      Collection.remove_empty_filter]
    exact get?_put_self ..

/-- A document can be stored beside others that it is kept apart from. -/
theorem exists_reaches_insert {document other : Document}
    (found : store.get? name = some collection)
    (proper : AllWellFormed collection.documents)
    (separated : collection.Separated)
    (documentProper : document.wellFormed = true)
    (apart : (collection.withDocuments
      (collection.documents ++ [document.besides other])).Separated) :
    ∃ next,
      Reaches (fun call => call.discards name = false) store next ∧
        next.get? name = some (collection.withDocuments
          (collection.documents ++ [document.besides other])) := by
  let stocked : MemoryStore :=
    { store with supply := ⟨(other.valueAt "_id").stranger⟩ }
  have target : stocked.target name = collection := target_of_get? found
  refine ⟨(stocked.answer (.insert name document [])).state, ?_, ?_⟩
  · refine Reaches.call (Reaches.restock Reaches.start _) _ ?_ rfl
    simpa [Call.WellFormed, Call.documents] using documentProper
  · have settled := settled_insert (target ▸ proper) (target ▸ separated)
      documentProper
    rw [target] at settled
    exact get?_of_settled settled apart

/-- Calls that leave all indexes alone can replace the documents of a
collection by any two that its unique indexes keep apart. -/
theorem exists_reaches_pair {left right : Document}
    (sound : store.Sound) (found : store.get? name = some collection)
    (leftProper : left.wellFormed = true)
    (rightProper : right.wellFormed = true)
    (differ : ∀ index ∈ collection.indexes, index.unique = true →
      ¬ AgreeOn index.key left right) :
    ∃ later first second,
      Reaches (fun call => call.discards name = false) store later ∧
        later.documents name = [first, second] ∧
        ∀ key, AgreeOn key left right → AgreeOn key first second := by
  have identityDiffers :
      (left.valueAt "_id").agrees (right.valueAt "_id") = false := by
    have differing := differ Index.identity
      (sound name collection found).identity_mem rfl
    simpa [AgreeOn, Index.identity] using differing
  have besidesProper (document other : Document)
      (proper : document.wellFormed = true) :
      (document.besides other).wellFormed = true :=
    Identified.wellFormed_ofDocument _ proper
  rcases exists_reaches_empty found with ⟨emptied, reachedEmptied, emptiedFound⟩
  -- The first document is alone, and the second one differs from it.
  have firstSeparated : (collection.withDocuments
      [left.besides right]).Separated := by
    intro index member unique
    exact (Index.keepsApart_concat_iff allWellFormed_nil
      (besidesProper left right leftProper)).mpr
      ⟨Index.keepsApart_nil index, by simp⟩
  have firstProper : AllWellFormed [left.besides right] := by
    simpa using besidesProper left right leftProper
  have secondSeparated : (collection.withDocuments
      ([left.besides right] ++ [right.besides left])).Separated := by
    intro index member unique
    refine (Index.keepsApart_concat_iff firstProper
      (besidesProper right left rightProper)).mpr
      ⟨firstSeparated index member unique, ?_⟩
    intro stored alone
    rcases List.mem_singleton.mp alone with rfl
    rw [Bool.eq_false_iff, ne_eq, Index.sameKey_iff,
      Document.agreeOn_besides_iff identityDiffers]
    exact differ index member unique
  obtain ⟨one, reachedOne, oneFound⟩ := exists_reaches_insert emptiedFound
    allWellFormed_nil (fun index _ _ => Index.keepsApart_nil index)
    leftProper firstSeparated
  obtain ⟨two, reachedTwo, twoFound⟩ := exists_reaches_insert oneFound
    firstProper firstSeparated rightProper secondSeparated
  refine ⟨two, left.besides right, right.besides left,
    (reachedEmptied.trans reachedOne).trans reachedTwo, ?_, ?_⟩
  · rw [documents, twoFound]
    rfl
  · exact fun key => (Document.agreeOn_besides_iff identityDiffers).mpr

/-! ## Promises -/

/-- No two documents of a collection ever have the same values at all paths
of a key, as long as no call may do away with an index of the collection. -/
def Promised (store : MemoryStore) (name : String) (key : Document) : Prop :=
  ∀ later, Reaches (fun call => call.discards name = false) store later →
    ∀ (first second : Nat) (left right : Document), first ≠ second →
      (later.documents name)[first]? = some left →
        (later.documents name)[second]? = some right →
          ¬ AgreeOn key left right

theorem promised_iff_enforces (sound : store.Sound)
    (found : store.get? name = some collection) (key : Document) :
    store.Promised name key ↔ collection.Enforces key := by
  constructor
  · intro promised left right leftProper rightProper agreeing
    by_contra allowed
    have differ : ∀ index ∈ collection.indexes, index.unique = true →
        ¬ AgreeOn index.key left right :=
      fun index member unique same => allowed ⟨index, member, unique, same⟩
    rcases exists_reaches_pair sound found leftProper rightProper differ with
      ⟨later, first, second, reaches, pair, agree⟩
    refine promised later reaches 0 1 first second (by decide) ?_ ?_
      (agree key agreeing)
    · rw [pair]
      rfl
    · rw [pair]
      rfl
  · intro enforces later reaches first second left right different leftAt
      rightAt agreeing
    rcases exists_indexes_subset_of_reaches sound found reaches with
      ⟨next, nextFound, subset⟩
    have nextSound := sound.reaches reaches name next nextFound
    have stored : later.documents name = next.documents := by
      rw [documents, nextFound]
    rw [stored] at leftAt rightAt
    obtain ⟨index, member, unique, same⟩ := enforces left right
      (nextSound.proper left (List.mem_of_getElem? leftAt))
      (nextSound.proper right (List.mem_of_getElem? rightAt)) agreeing
    exact nextSound.separated.not_agreeOn (subset member) unique different
      leftAt rightAt same

/-- A call for a unique index that succeeds promises what the index says
exactly when its name was not in use or the unique indexes that were there
say the same: an index that only has the name is taken for it. -/
theorem promised_of_ensureIndex_iff {keys options : Document}
    (reachable : Reachable store)
    (proper : (Call.ensureIndex name keys options).WellFormed)
    (keyed : keys ≠ []) (unique : isSet options "unique" = true)
    (granted : (store.ensureIndex name keys options).result = .ok true) :
    (store.ensureIndex name keys options).state.Promised name keys ↔
      (store.target name).hasIndex (requestedIndex keys options).name =
          false ∨
        (store.target name).Enforces keys := by
  have afterSound :
      (store.ensureIndex name keys options).state.Sound :=
    (reachable.answer _ proper).sound
  have targetSound := reachable.sound.target name
  have settled : Settled store name _ (store.ensureIndex name keys options) :=
    settled_ensureIndex targetSound.proper targetSound.separated keyed
  cases settled with
  | refused _ _ _ _ refused _ =>
      rw [granted] at refused
      cases refused
  | accepted _ _ _ left =>
      rw [promised_iff_enforces afterSound left]
      cases used : (store.target name).hasIndex
          (requestedIndex keys options).name with
      | true => simp
      | false =>
          simp only [Bool.false_eq_true, if_false, true_or, iff_true]
          intro first second _ _ agreeing
          refine ⟨requestedIndex keys options, ?_, unique, agreeing⟩
          simp

/-- A plain index over `a`. -/
def plainlyIndexedStore : MemoryStore :=
  (empty "sample" default).run [.ensureIndex "c" [("a", .ofInt 1)] []]

/-- After a plain index over `a`, a unique one is granted and not kept. -/
theorem promised_of_ensureIndex_iff_plain :
    Reachable plainlyIndexedStore ∧
      (plainlyIndexedStore.ensureIndex "c" [("a", .ofInt 1)]
        [("unique", .boolean true)]).result = .ok true ∧
      ¬ (plainlyIndexedStore.ensureIndex "c" [("a", .ofInt 1)]
        [("unique", .boolean true)]).state.Promised "c" [("a", .ofInt 1)] := by
  have reachable : Reachable plainlyIndexedStore :=
    Reachable.run_empty "sample" default (by decide)
  refine ⟨reachable, rfl, ?_⟩
  rw [promised_of_ensureIndex_iff reachable (by decide) (by simp) rfl rfl]
  rintro (fresh | enforces)
  · exact absurd fresh (by decide)
  · obtain ⟨index, member, unique, same⟩ := enforces
      [("_id", .ofInt 1), ("a", .ofInt 1)]
      [("_id", .ofInt 2), ("a", .ofInt 1)] rfl rfl
      (Index.sameKey_iff.mp
        (rfl : Index.sameKey ⟨"a_1", [("a", .ofInt 1)], true⟩ _ _ = true))
    have indexes : (plainlyIndexedStore.target "c").indexes =
        [Index.identity, ⟨"a_1", [("a", .ofInt 1)], false⟩] := rfl
    rw [indexes] at member
    simp only [List.mem_cons, List.not_mem_nil, or_false] at member
    rcases member with rfl | rfl
    · have differ : Index.identity.sameKey
          [("_id", .ofInt 1), ("a", .ofInt 1)]
          [("_id", .ofInt 2), ("a", .ofInt 1)] = false := rfl
      rw [Index.sameKey_iff.mpr same] at differ
      exact Bool.noConfusion differ
    · exact Bool.noConfusion unique

end MemoryStore

end DocQuery
