import DocQuery.Proofs.Store.Soundness

/-!
# When a write is refused for a duplicate key

Exactly when the collection that it would leave has two documents with the
same key in a unique index.  What the documents were before does not matter,
nor does the order in which they are rewritten or stored.
-/

namespace DocQuery

open Store (Call)

namespace Collection

/-- Two documents at different positions have the same values at all paths of
a unique index. -/
def HasDuplicates (collection : Collection) : Prop :=
  ∃ index ∈ collection.indexes, index.unique = true ∧
    ∃ (first second : Nat) (left right : Document), first ≠ second ∧
      collection.documents[first]? = some left ∧
      collection.documents[second]? = some right ∧
      AgreeOn index.key left right

variable {collection : Collection}

theorem hasDuplicates_of_not_keepsApart {index : Index}
    (member : index ∈ collection.indexes) (unique : index.unique = true)
    (clash : ¬ index.KeepsApart collection.documents) :
    collection.HasDuplicates := by
  simp only [Index.KeepsApart, not_forall, Bool.not_eq_false] at clash
  rcases clash with
    ⟨first, second, left, right, different, leftAt, rightAt, same⟩
  exact ⟨index, member, unique, first, second, left, right, different, leftAt,
    rightAt, Index.sameKey_iff.mp same⟩

theorem Separated.not_hasDuplicates (separated : collection.Separated) :
    ¬ collection.HasDuplicates := by
  rintro ⟨index, member, unique, first, second, left, right, different,
    leftAt, rightAt, agreeing⟩
  exact separated.not_agreeOn member unique different leftAt rightAt agreeing

end Collection

namespace MemoryStore

/-- A call that asks for an index over nothing fails for this reason and
would leave a collection that is there, or an empty one, as it is. -/
theorem answer_of_lacksKeys {store : MemoryStore} {call : Call}
    {name : String} {next : Collection} (lacking : call.lacksKeys = true)
    (intended : store.intended? call = some (name, next)) :
    (store.answer call).result = .error (.invalidOperation .noIndexKeys) ∧
      next = store.target name := by
  cases call with
  | ensureIndex collection keys options =>
      have noKeys : keys.isEmpty = true := lacking
      simp only [intended?, noKeys, Bool.true_or, if_true] at intended
      rcases Prod.mk.inj (Option.some.inj intended) with ⟨rfl, rfl⟩
      have refused : (store.ensureIndex collection keys options).result =
          .error (.invalidOperation .noIndexKeys) := by
        simp only [ensureIndex, noKeys, if_true]
      exact ⟨refused, rfl⟩
  | _ => simp [Call.lacksKeys] at lacking

/-- A write to a store that calls have led to is refused for a duplicate key
exactly when what it would leave has duplicates.  Otherwise it leaves this,
unless it asks for an index over nothing. -/
theorem duplicateKey_iff_hasDuplicates {store : MemoryStore} {call : Call}
    {name : String} {next : Collection} (reachable : Reachable store)
    (proper : call.WellFormed)
    (intended : store.intended? call = some (name, next)) :
    ((∃ index, (store.answer call).result =
          .error (.rejected (.duplicateKey index))) ↔
        next.HasDuplicates) ∧
      (¬ next.HasDuplicates → call.lacksKeys = false →
        (∃ answer, (store.answer call).result = .ok answer) ∧
          (store.answer call).state.get? name = some next) := by
  have sound := reachable.sound.target name
  cases lacking : call.lacksKeys with
  | true =>
      rcases answer_of_lacksKeys lacking intended with ⟨result, rfl⟩
      rw [result]
      simpa using sound.separated.not_hasDuplicates
  | false =>
      have settled := settled_answer sound.proper sound.separated proper
        lacking intended
      cases settled with
      | accepted separated answer result left =>
          rw [result]
          refine ⟨?_, fun _ _ => ⟨⟨answer, rfl⟩, left⟩⟩
          simpa using separated.not_hasDuplicates
      | refused index member unique clash result kept =>
          have duplicates :=
            Collection.hasDuplicates_of_not_keepsApart member unique clash
          rw [result]
          refine ⟨?_, fun without => absurd duplicates without⟩
          simpa [Index.duplicateKey] using duplicates

/-- Values that take the places of each other are no duplicates. -/
theorem duplicateKey_iff_hasDuplicates_shifted :
    ∃ next, Reachable shiftedStore ∧
      shiftedStore.intended?
          (.update "c" [] [("$inc", .document [("a", .ofInt 1)])]
            [("multiple", .boolean true)]) = some ("c", next) ∧
      next.documents =
        [[("_id", .ofInt 1), ("a", .ofInt 3)],
          [("_id", .ofInt 2), ("a", .ofInt 4)]] ∧
      ¬ next.HasDuplicates ∧
      (shiftedStore.answer
        (.update "c" [] [("$inc", .document [("a", .ofInt 1)])]
          [("multiple", .boolean true)])).state.get? "c" = some next := by
  have reachable : Reachable shiftedStore :=
    Reachable.run_empty "sample" default (by decide)
  have intended : shiftedStore.intended?
      (.update "c" [] [("$inc", .document [("a", .ofInt 1)])]
        [("multiple", .boolean true)]) = some ("c",
      ⟨[[("_id", .ofInt 1), ("a", .ofInt 3)],
          [("_id", .ofInt 2), ("a", .ofInt 4)]],
        [Index.identity, ⟨"a_1", [("a", .ofInt 1)], true⟩]⟩) := rfl
  rcases duplicateKey_iff_hasDuplicates reachable (by decide) intended with
    ⟨refused, accepted⟩
  have without := refused.not.mp (by rintro ⟨index, result⟩; cases result)
  exact ⟨_, reachable, intended, rfl, without, (accepted without rfl).2⟩

end MemoryStore

end DocQuery
