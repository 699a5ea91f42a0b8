import DocQuery.Projection
import DocQuery.Proofs.Document.Removal
import DocQuery.Proofs.Value.Recast

/-!
# What a projection reads

A projection reads its names and whether its flags say yes; where it hides
fields it reads the names alone.  A zero that is written as a double says yes,
so it turns a projection that hides a field into one that shows nothing else.
-/

namespace DocQuery

namespace Projection

open Value (Recast RecastEntries LosesZero)

/-! ## Marks -/

/-- The names of a projection with what their flags say. -/
def marks (projection : Document) : List (String × Bool) :=
  projection.map fun entry => (entry.1, entry.2.truthy)

variable {projection other : Document}

theorem keepsId_congr (same : marks projection = marks other) :
    keepsId projection = keepsId other := by
  have read (flags : Document) : keepsId flags =
      (((marks flags).find? fun mark => mark.1 == "_id").map
        Prod.snd).getD true := by
    unfold keepsId
    induction flags with
    | nil => rfl
    | cons entry rest ih =>
        rcases entry with ⟨field, flag⟩
        by_cases here : field = "_id"
        · simp [Document.get?_cons, marks, here]
        · simpa [Document.get?_cons, marks, here] using ih
  rw [read, read, same]

theorem shownFields_congr (document : Document)
    (same : marks projection = marks other) :
    shownFields document projection = shownFields document other := by
  have read (flags shown : Document) :
      flags.foldl (showField document) shown =
        (marks flags).foldl (fun shown mark =>
          showField document shown (mark.1, .boolean mark.2)) shown := by
    rw [marks, List.foldl_map]
    rfl
  rw [shownFields, shownFields, idPart, idPart, keepsId_congr same, read, read,
    same]

theorem withoutNamed_congr (document : Document)
    (same : projection.keys = other.keys) :
    withoutNamed document projection = withoutNamed document other := by
  have read (flags : Document) : withoutNamed document flags =
      flags.keys.foldl Document.unsetPath document := by
    rw [withoutNamed, Document.keys, List.foldl_map]
  rw [read, read, same]

/-! ## Flags in other kinds -/

/-- Two projections show the same of every document. -/
def ShowsAlike (projection other : Document) : Prop :=
  ∀ document : Document, document.wellFormed = true →
    document.project projection = document.project other

/-- No flag that counts has been a zero and become a double.  The flag of the
identifier counts where fields are shown, all others always do. -/
def FlagsAlike (projection other : Document) : Prop :=
  ∀ pair ∈ List.zip projection other,
    pair.1.1 ≠ "_id" ∨ isInclusion projection = true →
      ¬ LosesZero pair.1.2 pair.2.2

/-- What is read alike of every two entries is read alike of all. -/
theorem map_recast {Target : Type} {reading : String × Value → Target}
    (recast : RecastEntries projection other)
    (same : ∀ pair ∈ List.zip projection other, pair.1.1 = pair.2.1 →
      Recast pair.1.2 pair.2.2 → reading pair.1 = reading pair.2) :
    projection.map reading = other.map reading := by
  induction projection generalizing other with
  | nil =>
      cases recast
      rfl
  | cons entry rest ih =>
      cases recast with
      | @cons name flag changed _ others here later =>
          have first := same ((name, flag), (name, changed)) (by simp) rfl here
          have more := ih later fun pair member =>
            same pair (List.mem_cons_of_mem _ member)
          rw [List.map_cons, List.map_cons, first, more]

theorem isInclusion_recast (recast : RecastEntries projection other)
    (alike : FlagsAlike projection other) :
    isInclusion projection = isInclusion other := by
  have shown : (projection.map fun entry =>
      entry.1 != "_id" && entry.2.truthy) =
        other.map fun entry => entry.1 != "_id" && entry.2.truthy :=
    map_recast recast fun pair member sameName flags => by
      by_cases id : pair.1.1 = "_id"
      · simp [← sameName, id]
      · rw [← sameName,
          flags.truthy_eq_iff.mpr (alike pair member (Or.inl id))]
  have any := congrArg (List.any · id) shown
  simpa only [isInclusion, List.any_map, Function.id_comp] using any

/-- Where the flags that count are alike, a projection shows what the one that
it is recast to shows. -/
theorem showsAlike_recast (recast : RecastEntries projection other)
    (alike : FlagsAlike projection other) : ShowsAlike projection other := by
  intro document _
  have empty : projection.isEmpty = other.isEmpty := by
    cases recast <;> rfl
  unfold Document.project
  rw [empty, ← isInclusion_recast recast alike]
  cases shows : isInclusion projection with
  | true =>
      have same : marks projection = marks other :=
        map_recast recast fun pair member sameName flags => by
          rw [sameName,
            flags.truthy_eq_iff.mpr (alike pair member (Or.inr shows))]
      simp only [if_true, shownFields_congr document same]
  | false =>
      simp only [Bool.false_eq_true, if_false,
        withoutNamed_congr document recast.keys_eq]

/-- A document with one entry under another name tells apart a projection that
hides a field and one that shows it. -/
theorem not_losesZero_of_showsAlike {field : String} {flag changed : Value}
    (notId : field ≠ "_id")
    (same : ShowsAlike [(field, flag)] [(field, changed)]) :
    ¬ LosesZero flag changed := by
  rintro ⟨rfl, number, rfl⟩
  rcases List.exists_cons_of_ne_nil (pathNames_ne_nil field) with
    ⟨first, rest, names⟩
  obtain ⟨fresh, other, notIdentifier⟩ :
      ∃ fresh, fresh ≠ first ∧ fresh ≠ "_id" := by
    by_cases taken : first = "a"
    · exact ⟨"b", by rw [taken]; decide, by decide⟩
    · exact ⟨"a", fun same => taken same.symm, by decide⟩
  have hidden : Document.getPath? [(fresh, .null)] field = none := by
    have absent : Document.get? [(fresh, .null)] first = none := by
      simp [Document.get?_cons, other]
    rw [Document.getPath?, names,
      Document.follow?_cons_of_get?_eq_none absent, ite_self]
  have proper : Document.wellFormed [(fresh, .null)] = true :=
    Document.wellFormed_cons Document.wellFormed_nil rfl rfl
  have hides : Document.project [(fresh, .null)] [(field, .int32 0)] =
      [(fresh, .null)] := by
    simp [Document.project, isInclusion, withoutNamed, Value.truthy,
      Document.unsetPath_of_getPath?_eq_none hidden]
  have shows : Document.project [(fresh, .null)] [(field, .double number)] =
      [] := by
    simp [Document.project, isInclusion, shownFields, idPart, showField,
      Value.truthy, notId, hidden, Document.get?_cons, notIdentifier]
  have both := same [(fresh, .null)] proper
  rw [hides, shows] at both
  cases both

/-- A projection of one field shows what the one that it is recast to shows only
if the flags are alike. -/
theorem flagsAlike_of_showsAlike (single : projection.length = 1)
    (recast : RecastEntries projection other)
    (same : ShowsAlike projection other) : FlagsAlike projection other := by
  rcases List.length_eq_one_iff.mp single with ⟨⟨field, flag⟩, rfl⟩
  rcases recast with _ | ⟨here, later⟩
  cases later
  intro pair member counts
  rcases List.mem_singleton.mp member with rfl
  refine not_losesZero_of_showsAlike ?_ same
  rintro rfl
  simp [isInclusion] at counts

end Projection

end DocQuery
