import DocQuery.Proofs.Store.Rewriting
import DocQuery.Proofs.Value.Indistinct

/-!
# What an update reports as a change

An update compares the document that it has made with the one it found, and
what equality cannot tell apart it reports as unchanged: entries in another
order, or a zero of the other sign.  A document that holds a NaN is reported as
changed even where nothing happened to it.  Otherwise the report is exact.  A
store counts the changes among the documents that an update concerns.
-/

namespace DocQuery

open Value (Indistinct HoldsNaN)

namespace Update

variable {document update : Document} {outcome : Outcome}

/-- What the flag of an update says of the document before and after it. -/
structure FlagsChange (document : Document) (outcome : Outcome) : Prop where
  /-- No change is reported exactly if equality cannot tell the documents
  apart. -/
  unchanged_iff : outcome.changed = false ↔
    Indistinct (.document outcome.document) (.document document)
  /-- An untouched document is reported as changed exactly if it holds a
  NaN. -/
  changed_of_same (same : outcome.document = document) :
    outcome.changed = true ↔ HoldsNaN (.document document)
  /-- The report is exact unless an untouched document holds a NaN, or one that
  differs is indistinct from what it was. -/
  exact_iff : (outcome.changed = false ↔ outcome.document = document) ↔
    ¬ (outcome.document = document ∧ HoldsNaN (.document document)) ∧
      ¬ (outcome.document ≠ document ∧
        Indistinct (.document outcome.document) (.document document))

theorem changed_eq_of_apply (applied : apply document update = .ok outcome) :
    outcome.changed = !Document.equals outcome.document document := by
  rcases map_eq_ok_iff.mp applied with ⟨next, -, rfl⟩
  rfl

theorem flagsChange_of_apply (proper : document.wellFormed = true)
    (updateProper : update.wellFormed = true)
    (applied : apply document update = .ok outcome) :
    FlagsChange document outcome := by
  have flag : outcome.changed = false ↔
      Indistinct (.document outcome.document) (.document document) := by
    rw [changed_eq_of_apply applied, Bool.not_eq_false',
      ← Value.equals_iff_indistinct (.document outcome.document)
        (wellFormed_apply proper updateProper applied) proper]
    rfl
  have untouched (same : outcome.document = document) :
      outcome.changed = true ↔ HoldsNaN (.document document) := by
    rw [← Bool.not_eq_false, flag, same, Value.indistinct_self_iff proper,
      not_not]
  refine ⟨flag, untouched, ?_⟩
  by_cases same : outcome.document = document
  · have cause := untouched same
    cases report : outcome.changed <;> simp_all
  · cases report : outcome.changed <;> simp_all

end Update

namespace MemoryStore

variable {store : MemoryStore} {name : String}
  {filter change options : Document} {report : UpdateReport}

/-- The documents reported as modified are those that an update concerns and
flags as changed, whether there are any or not. -/
theorem modified_of_update
    (done : (store.answer (.update name filter change options)).result =
      .ok report) :
    report.modified =
      (List.range (store.documents name).length).countP fun position =>
        isTarget (store.documents name) filter (isSet options "multiple")
            position &&
          isChanged (store.documents name) change position := by
  rcases exists_of_update_eq_ok done with ⟨next, updated, -⟩
  rw [documents_eq_target]
  rcases Collection.rewrites_or_inserts_of_update updated with
    ⟨rewrites, -⟩ | ⟨unmet, rfl, -⟩
  · exact rewrites.modified
  · symm
    rw [List.countP_eq_zero]
    intro position within
    have there := List.getElem?_eq_getElem (List.mem_range.mp within)
    have spared := unmet _ (List.getElem_mem (List.mem_range.mp within))
    simp [isTarget, there, spared]

/-- An update flags a change exactly where equality sees one, which is where
there is one unless an untouched document holds a NaN or a changed one is
indistinct from what it was; and a store reports as modified how many of the
documents concerned are flagged. -/
theorem changes_reported (change : Document) :
    (∀ {document : Document} {outcome : Update.Outcome},
      document.wellFormed = true → change.wellFormed = true →
        Update.apply document change = .ok outcome →
          Update.FlagsChange document outcome) ∧
    ∀ {store : MemoryStore} {name : String}
      {filter options : Document} {report : UpdateReport},
      (store.answer (.update name filter change options)).result =
          .ok report →
        report.modified =
          (List.range (store.documents name).length).countP fun position =>
            isTarget (store.documents name) filter (isSet options "multiple")
                position &&
              isChanged (store.documents name) change position :=
  ⟨Update.flagsChange_of_apply, modified_of_update⟩

/-- Nothing happens to a document with a NaN, which is reported as a change;
its entries are put in another order, which is not. -/
theorem changes_reported_nan :
    Update.apply [("a", .double (.quietNaN false))]
        [("$unset", .document [("b", .ofInt 1)])] =
      .ok ⟨[("a", .double (.quietNaN false))], true⟩ ∧
    HoldsNaN (.document [("a", .double (.quietNaN false))]) ∧
    Update.apply [("a", .ofInt 1), ("b", .ofInt 2)]
        [("b", .ofInt 2), ("a", .ofInt 1)] =
      .ok ⟨[("b", .ofInt 2), ("a", .ofInt 1)], false⟩ ∧
    Indistinct (.document [("b", .ofInt 2), ("a", .ofInt 1)])
      (.document [("a", .ofInt 1), ("b", .ofInt 2)]) ∧
    (shiftedStore.answer (.update "c" []
        [("$inc", .document [("a", .ofInt 1)])]
        [("multiple", .boolean true)])).result = .ok ⟨2, 2⟩ ∧
    2 = (List.range 2).countP fun position =>
      isTarget (shiftedStore.documents "c") [] true position &&
        isChanged (shiftedStore.documents "c")
          [("$inc", .document [("a", .ofInt 1)])] position := by
  have untouched : Update.apply [("a", .double (.quietNaN false))]
      [("$unset", .document [("b", .ofInt 1)])] =
        .ok ⟨[("a", .double (.quietNaN false))], true⟩ := rfl
  have reordered : Update.apply [("a", .ofInt 1), ("b", .ofInt 2)]
      [("b", .ofInt 2), ("a", .ofInt 1)] =
        .ok ⟨[("b", .ofInt 2), ("a", .ofInt 1)], false⟩ := rfl
  have done : (shiftedStore.answer (.update "c" []
      [("$inc", .document [("a", .ofInt 1)])]
      [("multiple", .boolean true)])).result = .ok ⟨2, 2⟩ := rfl
  exact ⟨untouched,
    (((changes_reported _).1 rfl rfl untouched).changed_of_same rfl).mp rfl,
    reordered,
    ((changes_reported _).1 rfl rfl reordered).unchanged_iff.mp rfl,
    done, (changes_reported _).2 done⟩

end MemoryStore

end DocQuery
