import DocQuery.Proofs.Document.Path
import DocQuery.Proofs.Update.WellFormed

/-!
# What updates do to identifiers

Whether a document still has an identifier after an update can be read off the
update.  Of its changes of one path, those that write a value give the
document an identifier if their path leads to it or into it; only a removal
of just this path, or moving it elsewhere, takes it away; all others leave it.
The last of these changes decides.

Moving another field to the identifier gives the document one only if the
field is there.  Such an update is the one case in which the document has a
say.
-/

namespace DocQuery

/-! ## Documents with an identifier -/

/-- A document has an identifier. -/
def Document.identified (document : Document) : Bool :=
  (document.get? "_id").isSome

/-- A path leads to the identifier or into it. -/
def leadsToIdentifier (path : String) : Bool :=
  (pathNames path).head? == some "_id"

/-- A path, with its first name split off. -/
theorem exists_pathNames (path : String) :
    ∃ name rest, pathNames path = name :: rest ∧
      leadsToIdentifier path = decide (name = "_id") := by
  cases names : pathNames path with
  | nil => exact absurd names (pathNames_ne_nil path)
  | cons name rest =>
      refine ⟨name, rest, rfl, ?_⟩
      simp [leadsToIdentifier, names, beq_eq_decide]

namespace Document

variable {document : Document} {path : String} {found : Value}

theorem follow?_of_getPath? (there : document.getPath? path = some found) :
    document.follow? (pathNames path) = some found := by
  unfold getPath? at there
  split at there
  · exact there
  · simp at there

/-- What is found on a path to the identifier or into it shows that there is
one. -/
theorem identified_of_getPath? (there : document.getPath? path = some found)
    (leads : leadsToIdentifier path = true) : document.identified = true := by
  rcases exists_pathNames path with ⟨name, rest, names, same⟩
  rw [leads, eq_comm, decide_eq_true_iff] at same
  subst same
  have reached := follow?_of_getPath? there
  rw [names] at reached
  exact isSome_get?_of_follow? reached

theorem identified_setPath (document : Document) (path : String)
    (value : Value) :
    (document.setPath path value).identified =
      (document.identified || leadsToIdentifier path) := by
  rcases exists_pathNames path with ⟨name, rest, names, leads⟩
  rw [leads, setPath, names]
  by_cases same : name = "_id"
  · subst same
    simp [identified, isSome_get?_place_self]
  · simp [identified, get?_place_ne same, same]

/-- Writing where something was found does not give a document an identifier
that it had not. -/
theorem identified_setPath_of_found
    (there : document.getPath? path = some found) (value : Value) :
    (document.setPath path value).identified = document.identified := by
  rw [identified_setPath]
  cases leads : leadsToIdentifier path with
  | true => rw [identified_of_getPath? there leads, Bool.or_true]
  | false => rw [Bool.or_false]

/-- Only the path to the identifier itself takes it away. -/
theorem identified_unsetPath (distinct : document.Distinct) (path : String) :
    (document.unsetPath path).identified =
      (document.identified && path != "_id") := by
  unfold unsetPath
  split
  · next found there =>
      rcases exists_pathNames path with ⟨name, rest, names, leads⟩
      rw [names]
      by_cases same : name = "_id"
      · subst same
        have had := identified_of_getPath? there (by simpa using leads)
        cases rest with
        | nil =>
            rcases pathNames_eq_singleton names
            simp [identified, remove, distinct]
        | cons next others =>
            have longer : path ≠ "_id" := by
              rintro rfl
              simp [pathNames_id] at names
            rw [had, bne_iff_ne.mpr longer]
            simp [identified, remove]
      · have other : path ≠ "_id" := by
          rintro rfl
          simp [pathNames_id, Ne.symm same] at names
        simp [identified, get?_remove_ne same, other]
  · next missing =>
      by_cases same : path = "_id"
      · subst same
        rw [getPath?_id] at missing
        simp [identified, missing]
      · simp [same]

end Document

namespace Update

/-! ## What an update tells of identifiers -/

/-- A change of one path by an operator leaves a document with an identifier,
by whether it had one before. -/
def keptAt (operator : String) (kept : Bool) (path : String) : Bool :=
  match operator with
  | "$set" | "$inc" | "$push" | "$addToSet" => kept || leadsToIdentifier path
  | "$unset" => kept && path != "_id"
  | _ => kept

/-- Moving a value from one path to another leaves a document with an
identifier for certain, by whether it had one before. -/
def keptByMove (kept : Bool) (pair : String × String) : Bool :=
  kept && (pair.1 != "_id" || leadsToIdentifier pair.2)

/-- An operator leaves a document with an identifier for certain, by whether
it had one before. -/
def keptThrough (kept : Bool) (operator : String) (spec : Value) : Bool :=
  if operator = "$rename" then
    match renamePairs spec with
    | .ok pairs => pairs.foldl keptByMove kept
    | .error _ => kept
  else
    match payload operator spec with
    | .ok entries => (Document.keys entries).foldl (keptAt operator) kept
    | .error _ => kept

/-- The operators of an update, with their payloads, in order. -/
def operators (update : Document) : Document :=
  update.filter fun (name, _) => isOperatorName name

/-- An update leaves every document that has an identifier with one. -/
def keepsIdentifier (update : Document) : Bool :=
  (operators update).foldl
    (fun kept (operator, spec) => keptThrough kept operator spec) true

/-- A field from elsewhere moves to the identifier or into it. -/
def movesIntoIdentifier (pair : String × String) : Bool :=
  !leadsToIdentifier pair.1 && leadsToIdentifier pair.2

/-- An operator moves some field from elsewhere to the identifier or into
it. -/
def renamesInto (operator : String) (spec : Value) : Bool :=
  operator == "$rename" &&
    match renamePairs spec with
    | .ok pairs => pairs.any movesIntoIdentifier
    | .error _ => false

/-- So does an operator of an update. -/
def renamesIntoIdentifier (update : Document) : Bool :=
  (operators update).any fun (operator, spec) => renamesInto operator spec

/-! ## One change of one path -/

/-- What is known of whether a document has an identifier: `kept` is right if
it says so, and also if it denies it when `exact` is given. -/
structure Tells (exact : Prop) (kept : Bool) (document : Document) : Prop where
  sound : kept = true → document.identified = true
  complete : exact → document.identified = true → kept = true

theorem Tells.iff {exact : Prop} {kept : Bool} {document : Document}
    (tells : Tells exact kept document) (given : exact) :
    document.identified = true ↔ kept = true :=
  ⟨tells.complete given, tells.sound⟩

/-- What a change of one path does to the identifier is told by the path. -/
def Tracks
    (change : Document → String → Value → Except StoreError Document)
    (operator : String) : Prop :=
  ∀ {document next : Document} {path : String} {value : Value},
    document.wellFormed = true → change document path value = .ok next →
      next.identified = keptAt operator document.identified path

theorem tracks_setField : Tracks setField "$set" := by
  intro document next path value _ changed
  rcases Except.ok.inj changed with rfl
  exact Document.identified_setPath document path value

theorem tracks_incrementField : Tracks incrementField "$inc" := by
  intro document next path value _ changed
  simp only [incrementField, bind, bind_eq_ok_iff] at changed
  rcases changed with ⟨sum, -, equal⟩
  rcases Except.ok.inj equal with rfl
  exact Document.identified_setPath document path sum

theorem tracks_unsetField : Tracks unsetField "$unset" := by
  intro document next path value proper changed
  rcases Except.ok.inj changed with rfl
  exact Document.identified_unsetPath (Document.wellFormed_iff.mp proper).1 path

theorem tracks_pushField : Tracks pushField "$push" := by
  intro document next path value _ changed
  simp only [pushField, bind, bind_eq_ok_iff] at changed
  rcases changed with ⟨items, -, equal⟩
  rcases Except.ok.inj equal with rfl
  exact Document.identified_setPath document path _

theorem tracks_addToSetField : Tracks addToSetField "$addToSet" := by
  intro document next path value _ changed
  simp only [addToSetField, bind, bind_eq_ok_iff] at changed
  rcases changed with ⟨items, -, equal⟩
  rcases Except.ok.inj equal with rfl
  exact Document.identified_setPath document path _

theorem tracks_popField : Tracks popField "$pop" := by
  intro document next path value _ changed
  unfold popField at changed
  split at changed
  · rcases Except.ok.inj changed with rfl
    rfl
  · next found there =>
      simp only [bind, bind_eq_ok_iff] at changed
      rcases changed with ⟨items, -, equal⟩
      rcases Except.ok.inj equal with rfl
      exact Document.identified_setPath_of_found there _

theorem tracks_pullField : Tracks pullField "$pull" := by
  intro document next path value _ changed
  unfold pullField at changed
  split at changed
  · rcases Except.ok.inj changed with rfl
    rfl
  · next found there =>
      simp only [bind, bind_eq_ok_iff] at changed
      rcases changed with ⟨items, -, kept, -, equal⟩
      rcases Except.ok.inj equal with rfl
      exact Document.identified_setPath_of_found there _

/-- Moving a value takes the identifier away only if it is moved elsewhere,
and gives one only if it comes from elsewhere. -/
theorem tells_renameField {exact : Prop} {kept : Bool} {document : Document}
    {pair : String × String} (proper : document.wellFormed = true)
    (inside : exact → movesIntoIdentifier pair = false)
    (tells : Tells exact kept document) :
    Tells exact (keptByMove kept pair) (renameField document pair) := by
  rcases pair with ⟨old, new⟩
  rw [renameField_eq, keptByMove]
  split
  · next missing =>
      -- What is missing may be the identifier itself: then it was not kept.
      have unkept : old = "_id" → kept = false := by
        rintro rfl
        rw [Document.getPath?_id] at missing
        rw [← Bool.not_eq_true]
        intro claimed
        simpa [Document.identified, missing] using tells.sound claimed
      by_cases same : old = "_id"
      · rw [unkept same, Bool.false_and, ← unkept same]
        exact tells
      · rw [bne_iff_ne.mpr same, Bool.true_or, Bool.and_true]
        exact tells
  · next found there =>
      have after : ((document.unsetPath old).setPath new found).identified =
          ((document.identified && old != "_id") ||
            leadsToIdentifier new) := by
        rw [Document.identified_setPath, Document.identified_unsetPath
          (Document.wellFormed_iff.mp proper).1]
      constructor
      case sound =>
        intro claimed
        rcases Bool.and_eq_true_iff.mp claimed with ⟨had, stays⟩
        rw [after, tells.sound had, Bool.true_and]
        exact stays
      case complete =>
        intro given has
        have had : document.identified = true := by
          cases into : leadsToIdentifier new with
          | false =>
              rw [after, into, Bool.or_false] at has
              exact (Bool.and_eq_true_iff.mp has).1
          | true =>
              have leads : leadsToIdentifier old = true := by
                simpa [movesIntoIdentifier, into] using inside given
              exact Document.identified_of_getPath? there leads
        rw [after, had, Bool.true_and] at has
        rw [tells.complete given had, Bool.true_and]
        exact has

/-! ## Whole updates -/

theorem keptAt_mono {operator path : String} {first second : Bool}
    (implied : first = true → second = true) :
    keptAt operator first path = true →
      keptAt operator second path = true := by
  cases first with
  | true =>
      rw [implied rfl]
      exact id
  | false =>
      unfold keptAt
      split
      all_goals simp +contextual

/-- A change that is told by its path keeps what is known right. -/
theorem Tells.at {exact : Prop} {kept : Bool} {document next : Document}
    {operator path : String} (tells : Tells exact kept document)
    (tracked : next.identified = keptAt operator document.identified path) :
    Tells exact (keptAt operator kept path) next where
  sound := by
    rw [tracked]
    exact keptAt_mono tells.sound
  complete given := by
    rw [tracked]
    exact keptAt_mono (tells.complete given)

theorem Tracks.forEach {exact : Prop} {operator : String}
    {change : Document → String → Value → Except StoreError Document}
    (tracks : Tracks change operator) (keeps : KeepsWellFormed change)
    {entries document next : Document} {kept : Bool}
    (entriesProper : ∀ entry ∈ entries, entry.2.wellFormed = true)
    (proper : document.wellFormed = true) (tells : Tells exact kept document)
    (changed : Update.forEach change entries document = .ok next) :
    Tells exact ((Document.keys entries).foldl (keptAt operator) kept)
      next := by
  induction entries generalizing document kept with
  | nil =>
      rcases Except.ok.inj changed with rfl
      exact tells
  | cons entry rest ih =>
      rcases entry with ⟨path, value⟩
      rw [forEach_cons, bind_eq_ok_iff] at changed
      rcases changed with ⟨middle, first, others⟩
      have middleProper : middle.wellFormed = true :=
        keeps proper (entriesProper _ List.mem_cons_self) first
      exact ih (fun later member =>
        entriesProper later (List.mem_cons_of_mem _ member)) middleProper
        (tells.at (tracks proper first)) others

theorem tells_foldl_renameField {exact : Prop} {kept : Bool}
    {document : Document} {pairs : List (String × String)}
    (proper : document.wellFormed = true)
    (inside : exact → pairs.any movesIntoIdentifier = false)
    (tells : Tells exact kept document) :
    Tells exact (pairs.foldl keptByMove kept)
      (pairs.foldl renameField document) := by
  induction pairs generalizing document kept with
  | nil => exact tells
  | cons pair rest ih =>
      simp only [List.any_cons, Bool.or_eq_false_iff] at inside
      exact ih (wellFormed_renameField proper pair)
        (fun given => (inside given).2)
        (tells_renameField proper (fun given => (inside given).1) tells)

theorem tells_applyOperator {exact : Prop} {kept : Bool}
    {document next : Document} {operator : String} {spec : Value}
    (proper : document.wellFormed = true)
    (specProper : spec.wellFormed = true)
    (inside : exact → renamesInto operator spec = false)
    (tells : Tells exact kept document)
    (applied : applyOperator document operator spec = .ok next) :
    Tells exact (keptThrough kept operator spec) next := by
  have each : ∀ {change}, operator ≠ "$rename" → Tracks change operator →
      KeepsWellFormed change →
      ((payload operator spec).bind fun entries =>
        forEach change entries document) = .ok next →
      Tells exact (keptThrough kept operator spec) next := by
    intro change other tracks keeps changed
    rcases bind_eq_ok_iff.mp changed with ⟨entries, read, done⟩
    have entriesProper := wellFormed_payload specProper read
    rw [keptThrough, if_neg other, read]
    exact tracks.forEach keeps (Document.wellFormed_iff.mp entriesProper).2
      proper tells done
  unfold applyOperator at applied
  split at applied
  · exact each (by decide) tracks_setField keepsWellFormed_setField applied
  · exact each (by decide) tracks_incrementField keepsWellFormed_incrementField
      applied
  · exact each (by decide) tracks_unsetField keepsWellFormed_unsetField applied
  · exact each (by decide) tracks_pushField keepsWellFormed_pushField applied
  · exact each (by decide) tracks_addToSetField keepsWellFormed_addToSetField
      applied
  · exact each (by decide) tracks_popField keepsWellFormed_popField applied
  · exact each (by decide) tracks_pullField keepsWellFormed_pullField applied
  · simp only [bind, bind_eq_ok_iff] at applied
    rcases applied with ⟨pairs, read, equal⟩
    rcases Except.ok.inj equal with rfl
    simp only [renamesInto, read, beq_self_eq_true, Bool.true_and] at inside
    rw [keptThrough, if_pos rfl, read]
    exact tells_foldl_renameField proper inside tells
  · exact absurd applied (by simp)

theorem tells_foldlM_applyOperator {exact : Prop} {kept : Bool}
    {entries document next : Document}
    (entriesProper : ∀ entry ∈ entries, entry.2.wellFormed = true)
    (proper : document.wellFormed = true)
    (inside : exact →
      (entries.any fun (operator, spec) => renamesInto operator spec) = false)
    (tells : Tells exact kept document)
    (applied : entries.foldlM
      (fun changed (operator, spec) => applyOperator changed operator spec)
      document = .ok next) :
    Tells exact
      (entries.foldl
        (fun kept (operator, spec) => keptThrough kept operator spec) kept)
      next := by
  induction entries generalizing document kept with
  | nil =>
      rcases Except.ok.inj applied with rfl
      exact tells
  | cons entry rest ih =>
      rcases entry with ⟨operator, spec⟩
      simp only [List.any_cons, Bool.or_eq_false_iff] at inside
      simp only [List.foldlM_cons, bind, bind_eq_ok_iff] at applied
      rcases applied with ⟨middle, first, others⟩
      have specProper := entriesProper _ List.mem_cons_self
      exact ih (fun later member =>
        entriesProper later (List.mem_cons_of_mem _ member))
        (wellFormed_applyOperator proper specProper first)
        (fun given => (inside given).2)
        (tells_applyOperator proper specProper
          (fun given => (inside given).1) tells first) others

theorem identified_replacement {document : Document}
    (had : document.identified = true) (update : Document) :
    (replacement document update).identified = true := by
  unfold replacement
  split
  · simp [Document.identified]
  · next missing => simp [Document.identified, missing] at had

/-- What an update does to the identifier of a document that has one. -/
theorem tells_apply {exact : Prop} {document update : Document}
    {outcome : Outcome} (proper : document.wellFormed = true)
    (updateProper : update.wellFormed = true)
    (inside : exact → renamesIntoIdentifier update = false)
    (had : document.identified = true)
    (applied : apply document update = .ok outcome) :
    Tells exact (keepsIdentifier update) outcome.document := by
  rcases map_eq_ok_iff.mp applied with ⟨next, made, rfl⟩
  unfold result at made
  split at made
  · have start : Tells exact true document := ⟨fun _ => had, fun _ _ => rfl⟩
    refine tells_foldlM_applyOperator ?_ proper inside start made
    intro entry member
    exact (Document.wellFormed_iff.mp updateProper).2 entry
      (List.mem_of_mem_filter member)
  · next plain =>
      rcases Except.ok.inj made with rfl
      have none_named : operators update = [] := by
        simpa [operators, hasOperators] using plain
      have kept : keepsIdentifier update = true := by
        rw [keepsIdentifier, none_named]
        rfl
      exact ⟨fun _ => identified_replacement had update, fun _ _ => kept⟩

/-- An update that removes the identifier, or moves it elsewhere, and does not
write it again leaves a document without one; every other one keeps it. -/
theorem identified_apply_iff {document update : Document} {outcome : Outcome}
    (proper : document.wellFormed = true)
    (updateProper : update.wellFormed = true)
    (inside : renamesIntoIdentifier update = false)
    (had : document.identified = true)
    (applied : apply document update = .ok outcome) :
    outcome.document.identified = true ↔ keepsIdentifier update = true :=
  (tells_apply proper updateProper (fun _ : True => inside) had applied).iff
    trivial

theorem identified_of_apply {document update : Document} {outcome : Outcome}
    (proper : document.wellFormed = true)
    (updateProper : update.wellFormed = true)
    (keeps : keepsIdentifier update = true)
    (had : document.identified = true)
    (applied : apply document update = .ok outcome) :
    outcome.document.identified = true :=
  (tells_apply proper updateProper False.elim had applied).sound keeps

/-- An identifier that is removed can be written again, but only afterwards,
and a field of it can be removed. -/
example :
    keepsIdentifier [("$unset", .document [("_id", .null)]),
        ("$set", .document [("_id.part", .null)])] = true ∧
      keepsIdentifier [("$set", .document [("_id.part", .null)]),
        ("$unset", .document [("_id", .null)])] = false ∧
      keepsIdentifier [("$unset", .document [("_id.part", .null)])] = true := by
  decide +kernel

end Update

end DocQuery
