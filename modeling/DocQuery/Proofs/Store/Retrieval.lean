import DocQuery.Proofs.Filter.Identifier
import DocQuery.Proofs.Store.Idle
import DocQuery.Proofs.Value.Indistinct

/-!
# Documents found again by their `_id`

A document is stored only if its `_id` agrees with that of no other document.
Whoever asks for this `_id`, however, also meets the documents that have an
array there with an item that agrees with it.  So the document that was stored
comes last of those that are found, and behind no other exactly if there is no
such array.  The same holds of what a removal by the `_id` takes away.

An `_id` in the form of operators is not asked for but evaluated, and one that
holds a NaN inside does not agree with itself.
-/

namespace DocQuery

/-- A document with an `_id`, which comes first if the document had none. -/
def Document.withId (document : Document) (id : Value) : Document :=
  match document.get? "_id" with
  | some _ => document
  | none => ("_id", id) :: document

theorem Identified.ofDocument_eq (supply : ObjectId.Supply)
    (document : Document) :
    (ofDocument supply document).1.document =
        document.withId (ofDocument supply document).1.id ∧
      (document.withId (ofDocument supply document).1.id).get? "_id" =
        some (ofDocument supply document).1.id := by
  unfold ofDocument Document.withId
  cases found : document.get? "_id" with
  | some id => exact ⟨rfl, found⟩
  | none => exact ⟨rfl, rfl⟩

namespace MemoryStore

variable {store : MemoryStore} {name : String} {document : Document}
  {id : Value}

theorem select_id (store : MemoryStore) (name : String)
    (literal : Filter.operators? id = none) :
    store.select name [("_id", id)] =
      .ok ((store.documents name).filter (·.isIdentifiedBy id)) := by
  rw [select_eq_find, documents_eq_target]
  exact Collection.find_of_meets fun _ _ => Document.meets_id literal

theorem remove_of_id (store : MemoryStore) (name : String)
    (literal : Filter.operators? id = none) :
    (store.remove name [("_id", id)] []).result = .ok true ∧
      (store.remove name [("_id", id)] []).state.documents name =
        (store.documents name).filter (!·.isIdentifiedBy id) := by
  have removal := remove_of_select (select_id store name literal) []
  have asked (document : Document) :
      document.satisfies [("_id", id)] = document.isIdentifiedBy id := by
    rw [Document.satisfies, Document.meets_id literal]
  have all : isSet [] "justOne" = false := rfl
  simpa only [asked, all, Bool.false_eq_true, if_false] using removal

/-- What a search without a projection delivers. -/
def delivered (store : MemoryStore) (name : String) (filter : Document) :
    Except StoreError (List Document) :=
  (store.answer (.find name filter [])).result.map Cursor.toList

theorem delivered_eq_select (store : MemoryStore) (name : String)
    (filter : Document) :
    store.delivered name filter = store.select name filter := by
  simp only [delivered, answer]
  cases store.select name filter with
  | error failure => rfl
  | ok found => exact congrArg Except.ok (Cursor.toList_ofDocuments found)

/-- An insertion that succeeds answers with the `_id` of its document. -/
theorem id_of_insert
    (stored : (store.insert name document).result = .ok (some id)) :
    id = (Identified.ofDocument store.supply document).1.id := by
  rcases insert_eq_write store name document with ⟨result, -⟩
  rw [result, result_write] at stored
  rcases map_eq_ok_iff.mp stored with ⟨outcome, made, same⟩
  rcases map_eq_ok_iff.mp made with ⟨next, -, rfl⟩
  exact (Option.some.inj same).symm

/-- What a document with an `_id` leaves behind that was stored. -/
structure Stored (store : MemoryStore) (name : String) (document : Document)
    (id : Value) (next : MemoryStore) : Prop where
  proper : (document.withId id).wellFormed = true
  identified : (document.withId id).get? "_id" = some id
  documents : next.documents name =
    store.documents name ++ [document.withId id]
  others (other : String) : other ≠ name →
    next.documents other = store.documents other
  /-- The `_id` of no other document agrees with it. -/
  differ : ∀ earlier ∈ store.documents name,
    (earlier.valueAt "_id").agrees id = false

theorem stored_of_insert (reachable : Reachable store)
    (proper : document.wellFormed = true)
    (stored : (store.insert name document).result = .ok (some id)) :
    Stored store name document id (store.insert name document).state := by
  have sound := reachable.sound.target name
  rcases Identified.ofDocument_eq store.supply document with
    ⟨shape, identified⟩
  rw [← id_of_insert stored] at shape identified
  have idProper := Identified.wellFormed_ofDocument store.supply proper
  rw [shape] at idProper
  cases settled_insert sound.proper sound.separated proper with
  | refused index member unique clash refused kept =>
      rw [refused] at stored
      cases stored
  | accepted separated answer accepted left =>
      rw [shape] at separated left
      refine ⟨idProper, identified, ?_, ?_, ?_⟩
      · rw [documents_eq_target, target_of_get? left, documents_eq_target]
        rfl
      · intro other different
        have same := (insert_eq_write store name document).2
        rw [same, MemoryStore.documents, get?_write_ne _ different]
        rfl
      · intro earlier member
        rw [documents_eq_target] at member
        have apart := separated Index.identity sound.identity_mem rfl
        have unlike := ((Index.keepsApart_concat_iff sound.proper
          idProper).mp apart).2 earlier member
        have value : (document.withId id).valueAt "_id" = id := by
          rw [Document.valueAt, Document.getPath?_id, identified,
            Option.getD_some]
        rw [← Bool.not_eq_true] at unlike ⊢
        intro agree
        refine unlike (Index.sameKey_iff.mpr fun entry inKey => ?_)
        rcases List.mem_singleton.mp inKey with rfl
        rwa [value]

namespace Stored

variable {next : MemoryStore}

/-- Of the documents from before, those are asked for that list the new
`_id`. -/
theorem isIdentifiedBy_earlier (stored : Stored store name document id next)
    {earlier : Document} (member : earlier ∈ store.documents name) :
    earlier.isIdentifiedBy id = earlier.listsIdentifier id := by
  have differ := stored.differ earlier member
  rw [Document.valueAt, Document.getPath?_id] at differ
  cases found : earlier.get? "_id" with
  | some value =>
      rw [found, Option.getD_some] at differ
      rw [Document.isIdentifiedBy_of_get? found, differ, Bool.false_or]
  | none =>
      rw [found, Option.getD_none] at differ
      rw [Document.isIdentifiedBy_of_absent found, differ,
        Document.listsIdentifier, found]

theorem isIdentifiedBy_self (stored : Stored store name document id next)
    (consistent : id.agrees id = true) :
    (document.withId id).isIdentifiedBy id = true := by
  rw [Document.isIdentifiedBy_of_get? stored.identified, consistent,
    Bool.true_or]

theorem filter_isIdentifiedBy (stored : Stored store name document id next)
    (consistent : id.agrees id = true) :
    (next.documents name).filter (·.isIdentifiedBy id) =
      (store.documents name).filter (·.listsIdentifier id) ++
        [document.withId id] := by
  rw [stored.documents, List.filter_append, List.filter_singleton,
    stored.isIdentifiedBy_self consistent,
    List.filter_congr fun _ member => stored.isIdentifiedBy_earlier member]
  rfl

theorem filter_not_isIdentifiedBy
    (stored : Stored store name document id next)
    (consistent : id.agrees id = true) :
    (next.documents name).filter (!·.isIdentifiedBy id) =
      (store.documents name).filter (!·.listsIdentifier id) := by
  rw [stored.documents, List.filter_append, List.filter_singleton,
    stored.isIdentifiedBy_self consistent,
    List.filter_congr fun _ member =>
      congrArg not (stored.isIdentifiedBy_earlier member)]
  exact List.append_nil _

end Stored

/-- How a document is found and removed by its `_id` after it was stored. -/
structure Retrieves (store next : MemoryStore) (name : String)
    (stored : Document) (id : Value) : Prop where
  /-- It comes behind the earlier documents that list the `_id`. -/
  delivered_eq : next.delivered name [("_id", id)] =
    .ok ((store.documents name).filter (·.listsIdentifier id) ++ [stored])
  /-- It comes alone exactly if there are none. -/
  delivered_iff : next.delivered name [("_id", id)] = .ok [stored] ↔
    ∀ earlier ∈ store.documents name, earlier.listsIdentifier id = false
  removed : (next.answer (.remove name [("_id", id)] [])).result = .ok true
  left_eq :
    (next.answer (.remove name [("_id", id)] [])).state.documents name =
      (store.documents name).filter (!·.listsIdentifier id)
  /-- The removal undoes the insertion exactly if there are none. -/
  left_iff :
    (next.answer (.remove name [("_id", id)] [])).state.documents name =
        store.documents name ↔
      ∀ earlier ∈ store.documents name, earlier.listsIdentifier id = false
  /-- No other collection has other documents at any time. -/
  others (other : String) : other ≠ name →
    next.documents other = store.documents other ∧
      (next.answer (.remove name [("_id", id)] [])).state.documents other =
        store.documents other

/-- A document that was stored is found and removed by its `_id`, together with
the documents that list it, unless the `_id` has the form of operators or holds
a NaN inside. -/
theorem retrieves_of_insert {options : Document} (reachable : Reachable store)
    (proper : document.wellFormed = true)
    (inserted : (store.answer (.insert name document options)).result =
      .ok (some id))
    (literal : Filter.operators? id = none)
    (consistent : id.isNumber = true ∨ ¬ id.HoldsNaN) :
    Retrieves store (store.answer (.insert name document options)).state name
      (document.withId id) id := by
  have stored := stored_of_insert reachable proper inserted
  change Retrieves store (store.insert name document).state name
    (document.withId id) id
  generalize (store.insert name document).state = next at stored ⊢
  have idProper : id.wellFormed = true :=
    Document.wellFormed_of_get? stored.proper stored.identified
  have self : id.agrees id = true :=
    (Value.agrees_self_iff idProper).mpr consistent
  have delivered := next.delivered_eq_select name [("_id", id)]
  rw [select_id next name literal,
    stored.filter_isIdentifiedBy self] at delivered
  have removal := remove_of_id next name literal
  rw [stored.filter_not_isIdentifiedBy self] at removal
  rcases removal with ⟨removed, left⟩
  have untouched {other : String} (different : other ≠ name) :
      (next.remove name [("_id", id)] []).state.documents other =
        next.documents other := by
    rw [remove, documents, get?_modify_ne different]
    rfl
  exact {
    delivered_eq := delivered
    delivered_iff := by
      rw [delivered]
      simp
    removed := removed
    left_eq := left
    left_iff := by
      refine (iff_of_eq (congrArg (· = _) left)).trans ?_
      simp [List.filter_eq_self]
    others := fun other different =>
      ⟨stored.others other different,
        (untouched different).trans (stored.others other different)⟩ }

/-- A document whose `_id` is an array. -/
def listingStore : MemoryStore :=
  (empty "sample" default).run
    [.insert "c" [("_id", .array [.ofInt 1, .ofInt 2])] []]

/-- The document with the array is found and removed with one whose `_id` is an
item of the array. -/
theorem retrieves_of_insert_listed :
    let next :=
      (listingStore.answer (.insert "c" [("_id", .ofInt 1)] [])).state
    Reachable listingStore ∧
      next.delivered "c" [("_id", .ofInt 1)] =
        .ok [[("_id", .array [.ofInt 1, .ofInt 2])], [("_id", .ofInt 1)]] ∧
      (next.answer (.remove "c" [("_id", .ofInt 1)] [])).state.documents "c" =
        [] := by
  intro next
  have reachable : Reachable listingStore :=
    Reachable.run_empty "sample" default (by decide)
  have inserted : (listingStore.answer
      (.insert "c" [("_id", .ofInt 1)] [])).result =
        .ok (some (.ofInt 1)) := rfl
  have retrieves := retrieves_of_insert reachable (by decide) inserted rfl
    (Or.inl rfl)
  exact ⟨reachable, retrieves.delivered_eq, retrieves.left_eq⟩

/-- A document with an `_id` is stored, but it is not all that is found by the
`_id`, and its removal by the `_id` does not lead back. -/
def Mistaken (store : MemoryStore) (id : Value) : Prop :=
  let next := (store.answer (.insert "c" [("_id", id)] [])).state
  Reachable store ∧
    (store.answer (.insert "c" [("_id", id)] [])).result = .ok (some id) ∧
    next.delivered "c" [("_id", id)] ≠ .ok [[("_id", id)]] ∧
    (next.answer (.remove "c" [("_id", id)] [])).state.documents "c" ≠
      store.documents "c"

theorem mistaken_of_sizes {store : MemoryStore} {id : Value}
    (reachable : Reachable store)
    (inserted : (store.answer (.insert "c" [("_id", id)] [])).result =
      .ok (some id))
    (deliveredSize :
      ((store.answer (.insert "c" [("_id", id)] [])).state.delivered "c"
        [("_id", id)]).toOption.map List.length ≠ some 1)
    (leftSize : (((store.answer (.insert "c" [("_id", id)] [])).state.answer
        (.remove "c" [("_id", id)] [])).state.documents "c").length ≠
      (store.documents "c").length) : Mistaken store id := by
  refine ⟨reachable, inserted, ?_, ?_⟩
  · intro same
    rw [same] at deliveredSize
    exact deliveredSize rfl
  · intro same
    exact leftSize (congrArg List.length same)

/-- An array can list the `_id`, the `_id` can have the form of operators, and
it can hold a NaN. -/
theorem mistaken_of_insert :
    Mistaken listingStore (.ofInt 1) ∧
      Mistaken listingStore (.document [("$exists", .boolean true)]) ∧
      Mistaken listingStore (.document [("x", .double (.quietNaN false))]) := by
  have reachable : Reachable listingStore :=
    Reachable.run_empty "sample" default (by decide)
  exact ⟨mistaken_of_sizes reachable rfl (by decide) (by decide),
    mistaken_of_sizes reachable rfl (by decide) (by decide),
    mistaken_of_sizes reachable rfl (by decide) (by decide)⟩

end MemoryStore

end DocQuery
