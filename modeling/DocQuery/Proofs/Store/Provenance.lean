import DocQuery.Proofs.Store.Rewriting
import DocQuery.Proofs.Store.Transition
import DocQuery.Proofs.Update.Identifier

/-!
# Where documents come from

A document that is in a collection after a call was there before, or was
stored with an identifier, or was made by the update that the call asks for of
a document that was there.  So what holds of every document once it was given
an identifier, and is preserved by the updates of a run, holds of all documents
in all states that the run leads to.

The first thing to hold in this way is that there is an identifier.  A
document has one as long as no update takes it away, and whether an update
does so is told by the update alone.
-/

namespace DocQuery

open Store (Call Reply)

/-! ## One call -/

/-- Where a document comes from that a collection has after a call of a
store. -/
inductive Origin (store : MemoryStore) (call : Call) (name : String) :
    Document → Prop where
  | kept {document : Document} (member : document ∈ store.documents name) :
      Origin store call name document
  | identified (supply : ObjectId.Supply) (given : Document) :
      Origin store call name (Identified.ofDocument supply given).1.document
  | rewritten {target : String} {filter change options old : Document}
      {report : UpdateReport} {outcome : Update.Outcome}
      (asked : call = .update target filter change options)
      (done : (store.answer (.update target filter change options)).result =
        .ok report)
      (found : report.matched ≠ 0) (member : old ∈ store.documents name)
      (applied : Update.apply old change = .ok outcome) :
      Origin store call name outcome.document

namespace Rewrites

variable {update : Document} {concerned : Nat → Bool}
  {before after : List Document} {report : UpdateReport}

/-- A document after an update was there before, or the update found it and
made it of one that was there. -/
theorem mem_after (rewrites : Rewrites update concerned before after report)
    {document : Document} (member : document ∈ after) :
    document ∈ before ∨
      report.matched ≠ 0 ∧ ∃ old ∈ before, ∃ outcome,
        Update.apply old update = .ok outcome ∧
          document = outcome.document := by
  rcases List.mem_iff_getElem?.mp member with ⟨position, there⟩
  cases target : concerned position with
  | false =>
      rw [rewrites.kept position target] at there
      exact Or.inl (List.mem_of_getElem? there)
  | true =>
      have within : position < before.length := by
        rw [← rewrites.length]
        exact (List.getElem?_eq_some_iff.mp there).1
      have old := List.getElem?_eq_getElem within
      rcases rewrites.rewritten old target with ⟨outcome, applied, here⟩
      rw [there, Option.some.injEq] at here
      have counted : report.matched ≠ 0 := by
        rw [rewrites.matched, ← Nat.pos_iff_ne_zero, List.countP_pos_iff]
        exact ⟨position, List.mem_range.mpr within, target⟩
      exact Or.inr ⟨counted, _, List.getElem_mem within, outcome, applied,
        here⟩

/-- An update that found a document made something of it. -/
theorem exists_mem_after
    (rewrites : Rewrites update concerned before after report)
    (found : report.matched ≠ 0) :
    ∃ old ∈ before, ∃ outcome,
      Update.apply old update = .ok outcome ∧ outcome.document ∈ after := by
  rw [rewrites.matched, ← Nat.pos_iff_ne_zero, List.countP_pos_iff] at found
  rcases found with ⟨position, within, target⟩
  have old := List.getElem?_eq_getElem (List.mem_range.mp within)
  rcases rewrites.rewritten old target with ⟨outcome, applied, here⟩
  exact ⟨_, List.getElem_mem _, outcome, applied, List.mem_of_getElem? here⟩

end Rewrites

theorem Identified.exists_of_mem_ofDocuments {supply : ObjectId.Supply}
    {documents : List Document} {identified : Identified}
    (member : identified ∈ (ofDocuments supply documents).1) :
    ∃ supply given, identified = (ofDocument supply given).1 := by
  induction documents generalizing supply with
  | nil => simp [ofDocuments] at member
  | cons document rest ih =>
      simp only [ofDocuments, List.mem_cons] at member
      rcases member with rfl | later
      · exact ⟨supply, document, rfl⟩
      · exact ih later

namespace Collection

variable {collection next : Collection} {filter change : Document}
  {all : Bool} {newcomer : Option (Except StoreError Document)}
  {report : UpdateReport} {document : Document}

theorem documents_of_insertAll {documents : List Document}
    (stored : collection.insertAll documents = .ok next) :
    next.documents = collection.documents ++ documents := by
  induction documents generalizing collection with
  | nil =>
      rcases Except.ok.inj stored with rfl
      simp
  | cons document rest ih =>
      rw [insertAll_cons, bind_eq_ok_iff] at stored
      rcases stored with ⟨middle, first, others⟩
      rw [ih others, documents_of_insert first]
      simp

theorem documents_of_addIndex {index : Index}
    (added : collection.addIndex index = .ok next) :
    next.documents = collection.documents := by
  unfold addIndex at added
  split at added
  · rcases Except.ok.inj added with rfl
    rfl
  · split at added
    · simp at added
    · rcases Except.ok.inj added with rfl
      rfl

theorem sublist_of_remove
    (removed : collection.remove filter all = .ok next) :
    next.documents.Sublist collection.documents := by
  simp only [remove, bind, bind_eq_ok_iff] at removed
  rcases removed with ⟨marked, selected, made⟩
  rcases Except.ok.inj made with rfl
  rw [← documents_select selected]
  exact misses_sublist marked

end Collection

namespace MemoryStore

variable {store first later : MemoryStore} {name : String}
  {document : Document} {call : Call}

theorem newcomer_eq_ofDocument {supply : ObjectId.Supply}
    {filter change options : Document}
    (made : (newcomer supply filter change options).1 =
      some (.ok document)) :
    ∃ given, document = (Identified.ofDocument supply given).1.document := by
  unfold newcomer at made
  split at made
  · split at made
    · simp at made
    · next outcome applied =>
        rcases Except.ok.inj (Option.some.inj made) with rfl
        exact ⟨outcome.document, rfl⟩
  · simp at made

theorem origin_of_mem_target
    (member : document ∈ (store.target name).documents) :
    Origin store call name document := by
  rw [← documents_eq_target] at member
  exact Origin.kept member

/-- An update that found a document left what it made of it. -/
theorem exists_mem_documents_of_update {filter change options : Document}
    {report : UpdateReport}
    (done : (store.answer (.update name filter change options)).result =
      .ok report)
    (found : report.matched ≠ 0) :
    ∃ old ∈ store.documents name, ∃ outcome,
      Update.apply old change = .ok outcome ∧ outcome.document ∈
        (store.answer
          (.update name filter change options)).state.documents name := by
  rcases exists_of_update_eq_ok done with ⟨next, updated, left⟩
  rcases Collection.rewrites_or_inserts_of_update updated with
    ⟨rewrites, -⟩ | ⟨-, rfl, -⟩
  · rw [documents_eq_target, documents, left]
    exact rewrites.exists_mem_after found
  · exact absurd rfl found

/-- An update leaves documents that were there, documents that it made of
those, and its newcomer. -/
theorem origin_of_update {filter change options : Document}
    {next : Collection} {report : UpdateReport}
    (done : (store.answer (.update name filter change options)).result =
      .ok report)
    (updated : (store.target name).update filter change
      (isSet options "multiple")
      (newcomer store.supply filter change options).1 = .ok (next, report))
    (member : document ∈ next.documents) :
    Origin store (.update name filter change options) name document := by
  rcases Collection.rewrites_or_inserts_of_update updated with
    ⟨rewrites, -⟩ | ⟨-, -, ⟨-, rfl⟩ | ⟨made, new, stored⟩⟩
  · rcases rewrites.mem_after member with
      old | ⟨found, old, was, outcome, applied, rfl⟩
    · exact origin_of_mem_target old
    · rw [← documents_eq_target] at was
      exact Origin.rewritten rfl done found was applied
  · exact origin_of_mem_target member
  · rw [Collection.documents_of_insert stored, List.mem_append,
      List.mem_singleton] at member
    rcases member with old | rfl
    · exact origin_of_mem_target old
    · rcases newcomer_eq_ofDocument new with ⟨given, rfl⟩
      exact Origin.identified _ given

/-- Every document that a call leaves in a collection has an origin. -/
theorem origin_of_transition {next : Collection}
    (transition : Transition store name call next)
    (member : document ∈ next.documents) :
    Origin store call name document := by
  cases transition with
  | kept => exact origin_of_mem_target member
  | dropped => simp [Collection.empty] at member
  | inserted stored =>
      rw [Collection.documents_of_insert stored, List.mem_append,
        List.mem_singleton] at member
      rcases member with old | rfl
      · exact origin_of_mem_target old
      · exact Origin.identified _ _
  | batchInserted stored =>
      rw [Collection.documents_of_insertAll stored, List.mem_append] at member
      rcases member with old | new
      · exact origin_of_mem_target old
      · rcases List.mem_map.mp new with ⟨identified, isNew, rfl⟩
        rcases Identified.exists_of_mem_ofDocuments isNew with
          ⟨supply, given, rfl⟩
        exact Origin.identified supply given
  | @updated filter change options next report updated =>
      have done := (result_update store name filter change options).trans
        (congrArg (Except.map Prod.snd) updated)
      exact origin_of_update done updated member
  | removed removed =>
      exact origin_of_mem_target
        ((Collection.sublist_of_remove removed).subset member)
  | indexed given added =>
      rw [Collection.documents_of_addIndex added] at member
      exact origin_of_mem_target member
  | unindexed keep => exact origin_of_mem_target member

/-- Every document of every collection after a call has an origin. -/
theorem origin_answer (store : MemoryStore) (call : Call)
    (member : document ∈ (store.answer call).state.documents name) :
    Origin store call name document := by
  rw [documents_eq_target] at member
  exact origin_of_transition (transition_answer store call name) member

/-! ## Runs -/

theorem Sound.allWellFormed (sound : store.Sound) (name : String) :
    AllWellFormed (store.documents name) := by
  rw [documents_eq_target]
  exact (sound.target name).proper

/-- What holds of documents that are given an identifier, and is preserved by
the updates that are allowed, holds of all documents of a run. -/
theorem holds_of_reaches (Invariant : Document → Prop)
    {allowed : Call → Prop}
    (identified : ∀ supply given,
      Invariant (Identified.ofDocument supply given).1.document)
    (preserved : ∀ {name filter change options},
      allowed (.update name filter change options) →
        change.wellFormed = true → ∀ {old : Document} {outcome},
          old.wellFormed = true → Invariant old →
            Update.apply old change = .ok outcome →
              Invariant outcome.document)
    (sound : first.Sound) (reaches : Reaches allowed first later)
    (initial : ∀ name, ∀ document ∈ first.documents name, Invariant document)
    (name : String) (document : Document)
    (member : document ∈ later.documents name) : Invariant document := by
  induction reaches generalizing document with
  | start => exact initial name document member
  | @call store reached call proper permitted ih =>
      cases origin_answer store call member with
      | kept member => exact ih document member
      | identified supply given => exact identified supply given
      | @rewritten target filter change options old report outcome asked done
          found was applied =>
          subst asked
          have changeProper := proper change (by simp [Call.documents])
          have oldProper :=
            (sound.reaches reached).allWellFormed name old was
          exact preserved permitted changeProper oldProper (ih old was) applied
  | restock _ supply ih => exact ih document member

end MemoryStore

/-! ## Identifiers -/

/-- The updates of a call leave every document that has an identifier with
one. -/
def Store.Call.keepsIdentifiers : Call → Bool
  | .update _ _ change _ => Update.keepsIdentifier change
  | _ => true

theorem Identified.identified_ofDocument (supply : ObjectId.Supply)
    (document : Document) :
    (ofDocument supply document).1.document.identified = true := by
  rcases document_ofDocument supply document with
    ⟨found, same⟩ | ⟨-, id, stamped⟩
  · rw [same]
    exact Option.isSome_iff_ne_none.mpr found
  · rw [stamped]
    simp [Document.identified, Document.get?_cons]

namespace MemoryStore

variable {store first : MemoryStore} {name : String}
  {filter change options : Document}

/-- Every document of every collection has an identifier. -/
def AllIdentified (store : MemoryStore) : Prop :=
  ∀ name, ∀ document ∈ store.documents name, document.identified = true

theorem allIdentified_empty (database : String) (supply : ObjectId.Supply) :
    (empty database supply).AllIdentified := by
  intro name document member
  simp [empty, documents, get?] at member

theorem AllIdentified.reaches (identified : first.AllIdentified)
    (sound : first.Sound)
    (reaches : Reaches (fun call => call.keepsIdentifiers = true) first
      store) : store.AllIdentified := by
  refine holds_of_reaches (fun document => document.identified = true)
    Identified.identified_ofDocument ?_ sound reaches identified
  intro name filter change options keeps changeProper old outcome oldProper
    had applied
  exact Update.identified_of_apply oldProper changeProper keeps had applied

/-- From a state in which every document has an identifier, calls whose
updates keep identifiers only lead to such states; and the next update, unless
it moves another field to the identifier, leaves such a state exactly if it
keeps identifiers as well or finds no document. -/
theorem allIdentified_iff_of_reaches (reachable : Reachable first)
    (identified : first.AllIdentified)
    (reaches : Reaches (fun call => call.keepsIdentifiers = true) first
      store) :
    store.AllIdentified ∧
      ∀ {name : String} {filter change options : Document},
        (Call.update name filter change options).WellFormed →
          Update.renamesIntoIdentifier change = false →
            ((store.answer
                (.update name filter change options)).state.AllIdentified ↔
              Update.keepsIdentifier change = true ∨
                ∀ report,
                  (store.answer
                      (.update name filter change options)).result =
                    .ok report → report.matched = 0) := by
  have here := identified.reaches reachable.sound reaches
  have sound := reachable.sound.reaches reaches
  refine ⟨here, ?_⟩
  intro name filter change options proper inside
  have changeProper := proper change (by simp [Call.documents])
  constructor
  · intro after
    by_contra neither
    simp only [not_or, Bool.not_eq_true, not_forall] at neither
    rcases neither with ⟨loses, report, done, found⟩
    rcases exists_mem_documents_of_update done found with
      ⟨old, was, outcome, applied, member⟩
    have kept := after name outcome.document member
    rw [Update.identified_apply_iff (sound.allWellFormed name old was)
      changeProper inside (here name old was) applied, loses] at kept
    exact Bool.noConfusion kept
  · intro allowed name document member
    cases origin_answer store _ member with
    | kept member => exact here name document member
    | identified supply given =>
        exact Identified.identified_ofDocument supply given
    | rewritten asked done found was applied =>
        rcases Call.update.inj asked with ⟨rfl, rfl, rfl, rfl⟩
        have keeps := allowed.resolve_right fun none => found (none _ done)
        exact Update.identified_of_apply (sound.allWellFormed name _ was)
          changeProper keeps (here name _ was) applied

/-- The shifted documents have identifiers until one of these is removed. -/
theorem allIdentified_iff_of_reaches_shifted :
    Reachable (empty "sample" default) ∧
      (empty "sample" default).AllIdentified ∧
      Reaches (fun call => call.keepsIdentifiers = true)
        (empty "sample" default) shiftedStore ∧
      shiftedStore.AllIdentified ∧
      ¬ (shiftedStore.answer (.update "c" [("a", .ofInt 3)]
        [("$unset", .document [("_id", .ofInt 1)])] [])).state.AllIdentified
      := by
  have reachable : Reachable (empty "sample" default) :=
    Reachable.of_reaches "sample" default Reaches.start
  have identified := allIdentified_empty "sample" default
  have reaches : Reaches (fun call => call.keepsIdentifiers = true)
      (empty "sample" default) shiftedStore :=
    Reaches.run _ (by decide) (by decide +kernel)
  rcases allIdentified_iff_of_reaches reachable identified reaches with
    ⟨shifted, next⟩
  refine ⟨reachable, identified, reaches, shifted, ?_⟩
  rw [next (by decide) (by decide +kernel)]
  have done : (shiftedStore.answer (.update "c" [("a", .ofInt 3)]
      [("$unset", .document [("_id", .ofInt 1)])] [])).result =
        .ok ⟨1, 1⟩ := rfl
  rintro (keeps | unmatched)
  · exact absurd keeps (by decide +kernel)
  · exact absurd (unmatched _ done) (by decide)

end MemoryStore

end DocQuery
