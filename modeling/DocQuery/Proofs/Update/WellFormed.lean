import DocQuery.Proofs.Document.Path
import DocQuery.Proofs.Outcome
import DocQuery.Proofs.Value.WellFormed
import DocQuery.Update

/-!
# Updates of well-formed documents

A well-formed update makes well-formed documents of well-formed documents.
Every operator that is carried out path by path writes values of three
origins: the payload, the document itself, and freshly computed scalars.  It
is therefore enough to say for each of them that one change of one path keeps
documents well formed; `KeepsWellFormed.forEach` and the recursion over the
operators do the rest.
-/

namespace DocQuery.Update

/-! ## The values that operators write -/

theorem wellFormed_add {current : Option Value} {increment sum : Value}
    {field : String} (added : add current increment field = .ok sum) :
    sum.wellFormed = true := by
  unfold add at added
  split at added
  · rcases Except.ok.inj added with rfl
    simp only [addInt32]
    split <;> rfl
  · rcases Except.ok.inj added with rfl
    rfl
  · rcases Except.ok.inj added with rfl
    rfl
  · rcases Except.ok.inj added with rfl
    rfl
  · split at added
    · rcases Except.ok.inj added with rfl
      rfl
    · exact absurd added (by simp)

theorem wellFormed_of_mem_itemsOf {payload item : Value}
    (proper : payload.wellFormed = true) (member : item ∈ itemsOf payload) :
    item.wellFormed = true := by
  unfold itemsOf at member
  split at member
  · next entries =>
      split at member
      · next items found =>
          have itemsProper := Document.wellFormed_of_get? proper found
          exact Value.wellFormed_array.mp itemsProper item member
      · next other found =>
          rcases List.mem_singleton.mp member with rfl
          exact Document.wellFormed_of_get? proper found
      · rcases List.mem_singleton.mp member with rfl
        exact proper
  · rcases List.mem_singleton.mp member with rfl
    exact proper

theorem wellFormed_of_mem_arrayAt {document : Document} {path : String}
    {items : List Value} (proper : document.wellFormed = true)
    (read : arrayAt document path = .ok items) {item : Value}
    (member : item ∈ items) : item.wellFormed = true := by
  unfold arrayAt at read
  split at read
  · rcases Except.ok.inj read with rfl
    exact absurd member (by simp)
  · next stored found =>
      rcases Except.ok.inj read with rfl
      have arrayProper := Document.wellFormed_getPath? proper found
      exact Value.wellFormed_array.mp arrayProper item member
  · exact absurd read (by simp)

theorem mem_addMissing {items additions : List Value} {item : Value}
    (member : item ∈ addMissing items additions) :
    item ∈ items ∨ item ∈ additions := by
  induction additions generalizing items with
  | nil => exact Or.inl member
  | cons addition rest ih =>
      simp only [addMissing, List.foldl_cons] at member
      rcases ih member with kept | later
      · split at kept
        · exact Or.inl kept
        · rcases List.mem_append.mp kept with old | new
          · exact Or.inl old
          · exact Or.inr (by simp [List.mem_singleton.mp new])
      · exact Or.inr (List.mem_cons_of_mem _ later)

theorem withoutPulled_sublist {criterion : Value} {items kept : List Value}
    (pulled : withoutPulled criterion items = .ok kept) :
    kept.Sublist items := by
  induction items generalizing kept with
  | nil =>
      rcases Except.ok.inj pulled with rfl
      exact List.Sublist.refl _
  | cons item rest ih =>
      simp only [withoutPulled, bind, bind_eq_ok_iff] at pulled
      rcases pulled with ⟨hit, -, keptRest, found, equal⟩
      rcases Except.ok.inj equal with rfl
      split
      · exact (ih found).cons item
      · exact (ih found).cons_cons item

/-! ## One change of one path -/

/-- A change of one path makes well-formed documents of well-formed documents
and values. -/
def KeepsWellFormed
    (change : Document → String → Value → Except StoreError Document) :
    Prop :=
  ∀ {document next : Document} {path : String} {value : Value},
    document.wellFormed = true → value.wellFormed = true →
      change document path value = .ok next → next.wellFormed = true

theorem KeepsWellFormed.forEach
    {change : Document → String → Value → Except StoreError Document}
    (keeps : KeepsWellFormed change) {entries document next : Document}
    (entriesProper : ∀ entry ∈ entries, entry.2.wellFormed = true)
    (proper : document.wellFormed = true)
    (changed : Update.forEach change entries document = .ok next) :
    next.wellFormed = true := by
  refine holds_of_foldlM (fun document => document.wellFormed = true) ?_
    proper changed
  intro entry member before after beforeProper first
  exact keeps beforeProper (entriesProper entry member) first

/-- Writing an array of well-formed items keeps a document well formed. -/
theorem wellFormed_setPath_array {document : Document} {items : List Value}
    (proper : document.wellFormed = true) (path : String)
    (itemsProper : ∀ item ∈ items, item.wellFormed = true) :
    (document.setPath path (.array items)).wellFormed = true :=
  Document.wellFormed_setPath proper path
    (Value.wellFormed_array.mpr itemsProper)

theorem keepsWellFormed_setField : KeepsWellFormed setField := by
  intro document next path value proper valueProper changed
  rcases Except.ok.inj changed with rfl
  exact Document.wellFormed_setPath proper path valueProper

theorem keepsWellFormed_incrementField : KeepsWellFormed incrementField := by
  intro document next path value proper _ changed
  simp only [incrementField, bind, bind_eq_ok_iff] at changed
  rcases changed with ⟨sum, added, equal⟩
  rcases Except.ok.inj equal with rfl
  exact Document.wellFormed_setPath proper path (wellFormed_add added)

theorem keepsWellFormed_unsetField : KeepsWellFormed unsetField := by
  intro document next path value proper _ changed
  rcases Except.ok.inj changed with rfl
  exact Document.wellFormed_unsetPath proper path

theorem keepsWellFormed_pushField : KeepsWellFormed pushField := by
  intro document next path value proper valueProper changed
  simp only [pushField, bind, bind_eq_ok_iff] at changed
  rcases changed with ⟨items, read, equal⟩
  rcases Except.ok.inj equal with rfl
  apply wellFormed_setPath_array proper path
  intro item member
  rcases List.mem_append.mp member with old | new
  · exact wellFormed_of_mem_arrayAt proper read old
  · exact wellFormed_of_mem_itemsOf valueProper new

theorem keepsWellFormed_addToSetField : KeepsWellFormed addToSetField := by
  intro document next path value proper valueProper changed
  simp only [addToSetField, bind, bind_eq_ok_iff] at changed
  rcases changed with ⟨items, read, equal⟩
  rcases Except.ok.inj equal with rfl
  apply wellFormed_setPath_array proper path
  intro item member
  rcases mem_addMissing member with old | new
  · exact wellFormed_of_mem_arrayAt proper read old
  · exact wellFormed_of_mem_itemsOf valueProper new

theorem keepsWellFormed_popField : KeepsWellFormed popField := by
  intro document next path value proper _ changed
  unfold popField at changed
  split at changed
  · rcases Except.ok.inj changed with rfl
    exact proper
  · simp only [bind, bind_eq_ok_iff] at changed
    rcases changed with ⟨items, read, equal⟩
    rcases Except.ok.inj equal with rfl
    apply wellFormed_setPath_array proper path
    intro item member
    have inItems : item ∈ items := by
      split at member
      · exact List.mem_of_mem_drop member
      · exact List.dropLast_subset items member
    exact wellFormed_of_mem_arrayAt proper read inItems

theorem keepsWellFormed_pullField : KeepsWellFormed pullField := by
  intro document next path value proper _ changed
  unfold pullField at changed
  split at changed
  · rcases Except.ok.inj changed with rfl
    exact proper
  · simp only [bind, bind_eq_ok_iff] at changed
    rcases changed with ⟨items, read, kept, pulled, equal⟩
    rcases Except.ok.inj equal with rfl
    apply wellFormed_setPath_array proper path
    intro item member
    have inItems : item ∈ items :=
      (withoutPulled_sublist pulled).subset member
    exact wellFormed_of_mem_arrayAt proper read inItems

/-- A value that is found at the first path is removed there and written at
the second one. -/
theorem renameField_eq (document : Document) (pair : String × String) :
    renameField document pair =
      match document.getPath? pair.1 with
      | none => document
      | some value => (document.unsetPath pair.1).setPath pair.2 value := by
  have taken : document.takePath pair.1 =
      (document.getPath? pair.1, document.unsetPath pair.1) :=
    Prod.ext (document.takePath_fst pair.1) (document.takePath_snd pair.1)
  rw [renameField, taken]
  cases missing : document.getPath? pair.1 with
  | none => exact Document.unsetPath_of_getPath?_eq_none missing
  | some value => rfl

theorem wellFormed_renameField {document : Document}
    (proper : document.wellFormed = true) (pair : String × String) :
    (renameField document pair).wellFormed = true := by
  rw [renameField_eq]
  split
  · exact proper
  · next value found =>
      exact Document.wellFormed_setPath
        (Document.wellFormed_unsetPath proper pair.1) pair.2
        (Document.wellFormed_getPath? proper found)

/-! ## Whole updates -/

theorem wellFormed_payload {operator : String} {spec : Value}
    {entries : Document} (proper : spec.wellFormed = true)
    (read : payload operator spec = .ok entries) :
    entries.wellFormed = true := by
  unfold payload at read
  split at read
  · rcases Except.ok.inj read with rfl
    exact proper
  · exact absurd read (by simp)

theorem wellFormed_foldl_renameField {document : Document}
    (proper : document.wellFormed = true) (pairs : List (String × String)) :
    (pairs.foldl renameField document).wellFormed = true := by
  induction pairs generalizing document with
  | nil => exact proper
  | cons pair rest ih => exact ih (wellFormed_renameField proper pair)

theorem wellFormed_applyOperator {document next : Document}
    {operator : String} {spec : Value}
    (proper : document.wellFormed = true)
    (specProper : spec.wellFormed = true)
    (applied : applyOperator document operator spec = .ok next) :
    next.wellFormed = true := by
  have each : ∀ {change}, KeepsWellFormed change →
      ((payload operator spec).bind fun entries =>
        forEach change entries document) = .ok next →
      next.wellFormed = true := by
    intro change keeps changed
    rcases bind_eq_ok_iff.mp changed with ⟨entries, read, done⟩
    have entriesProper := wellFormed_payload specProper read
    exact keeps.forEach (Document.wellFormed_iff.mp entriesProper).2
      proper done
  unfold applyOperator at applied
  split at applied
  · exact each keepsWellFormed_setField applied
  · exact each keepsWellFormed_incrementField applied
  · exact each keepsWellFormed_unsetField applied
  · exact each keepsWellFormed_pushField applied
  · exact each keepsWellFormed_addToSetField applied
  · exact each keepsWellFormed_popField applied
  · exact each keepsWellFormed_pullField applied
  · simp only [bind, bind_eq_ok_iff] at applied
    rcases applied with ⟨pairs, -, equal⟩
    rcases Except.ok.inj equal with rfl
    exact wellFormed_foldl_renameField proper pairs
  · exact absurd applied (by simp)

theorem wellFormed_replacement {document update : Document}
    (proper : document.wellFormed = true)
    (updateProper : update.wellFormed = true) :
    (replacement document update).wellFormed = true := by
  unfold replacement
  split
  · next id found =>
      exact Document.wellFormed_insert updateProper "_id"
        (Document.wellFormed_of_get? proper found)
  · exact updateProper

theorem wellFormed_result {document update next : Document}
    (proper : document.wellFormed = true)
    (updateProper : update.wellFormed = true)
    (made : result document update = .ok next) :
    next.wellFormed = true := by
  unfold result at made
  split at made
  · refine holds_of_foldlM (fun document => document.wellFormed = true) ?_
      proper made
    intro entry member before after beforeProper applied
    have specProper := (Document.wellFormed_iff.mp updateProper).2 entry
      (List.mem_of_mem_filter member)
    exact wellFormed_applyOperator beforeProper specProper applied
  · rcases Except.ok.inj made with rfl
    exact wellFormed_replacement proper updateProper

/-- A well-formed update makes a well-formed document of a well-formed one. -/
theorem wellFormed_apply {document update : Document} {outcome : Outcome}
    (proper : document.wellFormed = true)
    (updateProper : update.wellFormed = true)
    (applied : apply document update = .ok outcome) :
    outcome.document.wellFormed = true := by
  rcases map_eq_ok_iff.mp applied with ⟨next, made, rfl⟩
  exact wellFormed_result proper updateProper made

end DocQuery.Update
