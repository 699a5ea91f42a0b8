import DocQuery.Proofs.Clause.Directive
import DocQuery.Proofs.Projection.Selection
import DocQuery.Proofs.Update.Identifier

/-!
# Identifiers in projections

Whether a projection shows fields or hides them is told by the flags of all
fields but the identifier.  One that flags the identifier alone therefore hides
it, whatever the flag says; flagged beside other fields, the identifier stays.
The same holds for the fields that a query selects, for these come to a
projection with every flag set.
-/

namespace DocQuery

open Document (follow?)

variable {projection document : Document} {name field : String}

namespace Document

theorem isSome_get?_iff_mem_keys :
    (document.get? name).isSome = true ↔ name ∈ document.keys := by
  rw [← not_iff_not, Option.not_isSome_iff_eq_none, get?_eq_none_iff]

/-- A path that does not begin with a name takes nothing from it. -/
theorem get?_unsetPath_of_not_prefix {path : String}
    (other : ¬ [name] <+: pathNames path) (document : Document) :
    (document.unsetPath path).get? name = document.get? name := by
  unfold unsetPath
  split
  · rcases List.exists_cons_of_ne_nil (pathNames_ne_nil path) with
      ⟨first, rest, names⟩
    rw [names] at other ⊢
    refine get?_remove_ne ?_ rest document
    rintro rfl
    exact other ⟨rest, rfl⟩
  · rfl

/-- Inserting gives every name that is given, and no other. -/
theorem mem_keys_merge {additions : Document} :
    name ∈ (document.merge additions).keys ↔
      name ∈ document.keys ∨ name ∈ additions.keys := by
  induction additions generalizing document with
  | nil => simp [merge, keys]
  | cons entry rest ih =>
      have more : document.merge (entry :: rest) =
          (document.insert entry.1 entry.2).merge rest := rfl
      have given : name ∈ (document.insert entry.1 entry.2).keys ↔
          name ∈ document.keys ∨ name = entry.1 := by
        rw [keys_insert]
        split
        · next known =>
            constructor
            · exact Or.inl
            · rintro (old | rfl)
              · exact old
              · exact known
        · simp
      have others : keys (entry :: rest) = entry.1 :: keys rest := rfl
      rw [more, ih, given, others, List.mem_cons, or_assoc]

/-- Every entry that is there was there before or is given. -/
theorem mem_of_mem_merge {additions : Document} {entry : String × Value}
    (member : entry ∈ document.merge additions) :
    entry ∈ document ∨ entry ∈ additions := by
  induction additions generalizing document with
  | nil => exact Or.inl member
  | cons first rest ih =>
      rcases ih member with before | later
      · rcases mem_insert before with rfl | old
        · exact Or.inr List.mem_cons_self
        · exact Or.inl old
      · exact Or.inr (List.mem_cons_of_mem _ later)

end Document

/-! ## The fields that a query selects -/

namespace Envelope

variable {envelope : Envelope} {includes excludes : List String}

theorem mem_addName {names : List String} :
    field ∈ addName names name ↔ field ∈ names ∨ field = name := by
  unfold addName
  split
  · next known =>
      have known : name ∈ names := by simpa using known
      constructor
      · exact Or.inl
      · rintro (old | rfl)
        · exact old
        · exact known
  · simp

theorem mem_foldl_addName {names fields : List String} :
    field ∈ fields.foldl addName names ↔ field ∈ names ++ fields := by
  induction fields generalizing names with
  | nil => simp
  | cons first rest ih =>
      rw [List.foldl_cons, ih]
      simp [mem_addName, or_assoc]

/-- The fields to show are those that were to be shown and those that are
selected. -/
theorem mem_includes_select :
    field ∈ (envelope.select includes excludes).includes ↔
      field ∈ envelope.includes ++ includes := by
  rw [includes_select, mem_foldl_addName]

variable (shows : envelope.includes ≠ [])

include shows in
theorem projection_eq : envelope.projection =
    Document.ofEntries
      (envelope.includes.map fun field => (field, .ofInt 1)) := by
  simp [projection, shows]

include shows in
theorem mem_keys_projection :
    field ∈ envelope.projection.keys ↔ field ∈ envelope.includes := by
  rw [projection_eq shows, Document.ofEntries, Document.mem_keys_merge]
  simp [Document.keys]

/-- Every flag of a field to show is one. -/
theorem flag_of_mem_projection {entry : String × Value}
    (shows : envelope.includes ≠ []) (member : entry ∈ envelope.projection) :
    entry.2 = .ofInt 1 := by
  rw [projection_eq shows] at member
  rcases Document.mem_of_mem_merge member with none | given
  · cases none
  · rcases List.mem_map.mp given with ⟨_, _, rfl⟩
    rfl

end Envelope

namespace Projection

/-! ## Where fields are shown -/

/-- Every name in what is shown is that of the identifier or begins the path of
one of the fields. -/
def ShowsOnly (fields : List String) (shown : Document) : Prop :=
  ∀ name ∈ shown.keys, name = "_id" ∨
    ∃ field ∈ fields, [name] <+: pathNames field

theorem showsOnly_shownFields (projection document : Document) :
    ShowsOnly projection.keys (shownFields document projection) := by
  intro name shown
  by_contra apart
  rw [not_or, not_exists] at apart
  rcases apart with ⟨notId, unnamed⟩
  have hidden : follow? [name] (idPart projection document) = none := by
    unfold idPart
    split
    · split
      · simp [follow?, Document.get?_cons, Ne.symm notId]
      · rfl
    · rfl
  have nothing : follow? [name] (shownFields document projection) = none := by
    refine follow?_shownFields_of_apart hidden fun entry member _ => ?_
    have other : ¬ [name] <+: pathNames entry.1 := fun begins =>
      unnamed entry.1 ⟨List.mem_map_of_mem member, begins⟩
    refine ⟨fun shorter => other ?_, other⟩
    -- A path within one name is that name.
    rcases List.exists_cons_of_ne_nil (pathNames_ne_nil entry.1) with
      ⟨first, rest, names⟩
    rw [names, List.cons_prefix_cons] at shorter
    rw [names, shorter.1]
    exact ⟨rest, rfl⟩
  exact Document.get?_eq_none_iff.mp nothing shown

/-! ## Where fields are hidden -/

/-- What stands under a name is left as it is exactly if no path that is named
begins with it and leads anywhere. -/
theorem get?_withoutNamed_eq_iff (proper : document.wellFormed = true) :
    (withoutNamed document projection).get? name = document.get? name ↔
      ∀ entry ∈ projection, [name] <+: pathNames entry.1 →
        document.getPath? entry.1 = none := by
  constructor
  · rintro same entry member ⟨rest, names⟩
    unfold Document.getPath?
    split
    · next readable =>
        have hidden := follow?_withoutNamed_of_mem proper member readable
          (List.prefix_refl _)
        rw [← names, List.singleton_append] at hidden ⊢
        rw [← Document.follow?_cons_congr same rest, hidden]
    · rfl
  · intro idle
    refine withoutNamed_induction proper
      (fun left => left.get? name = document.get? name) rfl ?_
    intro left entry member _ same
    by_cases begins : [name] <+: pathNames entry.1
    · have missing : left.getPath? entry.1 = none := by
        have before := idle entry member begins
        rcases begins with ⟨rest, names⟩
        rw [Document.getPath?, ← names, List.singleton_append] at before ⊢
        rw [Document.follow?_cons_congr same rest, before]
      rw [Document.unsetPath_of_getPath?_eq_none missing, same]
    · rw [Document.get?_unsetPath_of_not_prefix begins, same]

/-- An identifier is left exactly if it is not named itself. -/
theorem identified_withoutNamed_iff (proper : document.wellFormed = true)
    (had : document.identified = true) :
    (withoutNamed document projection).identified = true ↔
      "_id" ∉ projection.keys := by
  constructor
  · intro left named
    rcases List.mem_map.mp named with ⟨entry, member, same⟩
    have readable : isReadablePath entry.1 = true := by
      rw [same]
      decide +kernel
    have hidden := follow?_withoutNamed_of_mem proper member readable
      (List.prefix_refl _)
    rw [same, pathNames_id, Document.follow?] at hidden
    rw [Document.identified, hidden] at left
    cases left
  · intro unnamed
    refine withoutNamed_induction proper
      (fun left => left.identified = true) had ?_
    intro left entry member leftProper there
    have other : entry.1 ≠ "_id" := by
      rintro same
      exact unnamed (same ▸ List.mem_map_of_mem member)
    rw [Document.identified_unsetPath (Document.wellFormed_iff.mp leftProper).1,
      there, bne_iff_ne.mpr other, Bool.and_true]

/-- Where the identifier alone is hidden, what is left is within the identifier
exactly if there was nothing else. -/
theorem showsOnly_withoutNamed_iff {fields : List String}
    (proper : document.wellFormed = true)
    (onlyId : ∀ field ∈ fields, field = "_id")
    (named : ∀ entry ∈ projection, entry.1 ∈ fields) :
    ShowsOnly fields (withoutNamed document projection) ↔
      ∀ name ∈ document.keys, name = "_id" := by
  have beginsId {name field : String} (member : field ∈ fields)
      (begins : [name] <+: pathNames field) : name = "_id" := by
    rw [onlyId field member, pathNames_id] at begins
    simpa using begins
  constructor
  · intro only name there
    by_contra notId
    have same : (withoutNamed document projection).get? name =
        document.get? name := by
      refine (get?_withoutNamed_eq_iff proper).mpr ?_
      intro entry member begins
      exact absurd (beginsId (named entry member) begins) notId
    have left : name ∈ (withoutNamed document projection).keys := by
      rwa [← Document.isSome_get?_iff_mem_keys, same,
        Document.isSome_get?_iff_mem_keys]
    rcases only name left with id | ⟨field, member, begins⟩
    · exact notId id
    · exact notId (beginsId member begins)
  · intro alone name left
    have there := (keys_withoutNamed_sublist proper projection []).subset left
    exact Or.inl (alone name there)

/-! ## The laws of identifiers -/

theorem keepsId_of_allowed
    (allowed : ∀ entry ∈ projection, entry.1 = "_id" →
      entry.2.truthy = true) :
    keepsId projection = true := by
  unfold keepsId
  split
  · next flag found => exact allowed _ (Document.mem_of_get? found) rfl
  · rfl

theorem isInclusion_projection_iff {envelope : Envelope}
    (shows : envelope.includes ≠ []) :
    isInclusion envelope.projection = true ↔
      ∃ field ∈ envelope.includes, field ≠ "_id" := by
  rw [isInclusion_iff]
  constructor
  · rintro ⟨entry, member, notId, -⟩
    have named := List.mem_map_of_mem (f := Prod.fst) member
    exact ⟨entry.1, (Envelope.mem_keys_projection shows).mp named, notId⟩
  · rintro ⟨field, member, notId⟩
    have named := (Envelope.mem_keys_projection shows).mpr member
    rcases List.mem_map.mp named with ⟨entry, entered, rfl⟩
    refine ⟨entry, entered, notId, ?_⟩
    rw [Envelope.flag_of_mem_projection shows entered]
    rfl

/-- A query that selects fields shows only these and the identifier, unless the
identifier is all that it selects: then it shows all fields but that. -/
theorem showsOnly_project_iff {envelope : Envelope}
    (proper : document.wellFormed = true) (shows : envelope.includes ≠ []) :
    ShowsOnly envelope.includes (document.project envelope.projection) ↔
      (∃ field ∈ envelope.includes, field ≠ "_id") ∨
        ∀ name ∈ document.keys, name = "_id" := by
  rw [project_eq, ← isInclusion_projection_iff shows]
  cases inclusion : isInclusion envelope.projection with
  | true =>
      simp only [if_true, true_or, iff_true]
      intro name shown
      rcases showsOnly_shownFields _ _ name shown with
        id | ⟨field, named, begins⟩
      · exact Or.inl id
      · have selected := (Envelope.mem_keys_projection shows).mp named
        exact Or.inr ⟨field, selected, begins⟩
  | false =>
      simp only [Bool.false_eq_true, if_false, false_or]
      have onlyId : ∀ field ∈ envelope.includes, field = "_id" := by
        intro field member
        by_contra notId
        have some_field := (isInclusion_projection_iff shows).mpr
          ⟨field, member, notId⟩
        rw [inclusion] at some_field
        cases some_field
      refine showsOnly_withoutNamed_iff proper onlyId ?_
      intro entry member
      exact (Envelope.mem_keys_projection shows).mp (List.mem_map_of_mem member)

/-- What projections do to the identifier of a document, and with it to what a
query selects. -/
structure IdentifierLaws (document : Document) : Prop where
  /-- An identifier that no flag denies is shown exactly if a flag of another
  field says yes or the identifier is not named. -/
  shown {projection : Document} (had : document.identified = true)
    (allowed : ∀ entry ∈ projection, entry.1 = "_id" →
      entry.2.truthy = true) :
    (document.project projection).identified = true ↔
      (∃ entry ∈ projection, entry.1 ≠ "_id" ∧ entry.2.truthy = true) ∨
        "_id" ∉ projection.keys
  /-- It is shown as it is exactly if a flag of another field says yes or no
  path that is named leads to the identifier or into it. -/
  same {projection : Document}
    (allowed : ∀ entry ∈ projection, entry.1 = "_id" →
      entry.2.truthy = true) :
    (document.project projection).get? "_id" = document.get? "_id" ↔
      (∃ entry ∈ projection, entry.1 ≠ "_id" ∧ entry.2.truthy = true) ∨
        ∀ entry ∈ projection, ["_id"] <+: pathNames entry.1 →
          document.getPath? entry.1 = none
  /-- Where a query has selected fields, every name that is shown is that of the
  identifier or begins the path of one of them, exactly if one of them is not
  the identifier or the document has nothing else. -/
  selected (envelope : Envelope) {includes : List String}
    (some_fields : includes ≠ []) (excludes : List String) :
    ShowsOnly (envelope.includes ++ includes)
        (document.project (envelope.select includes excludes).projection) ↔
      (∃ field ∈ envelope.includes ++ includes, field ≠ "_id") ∨
        ∀ name ∈ document.keys, name = "_id"

/-- An identifier that no flag denies is shown but by a projection that names
it and shows no other field; and such a projection comes from a query that
selects the identifier alone. -/
theorem identifierLaws_of_wellFormed (proper : document.wellFormed = true) :
    IdentifierLaws document := by
  constructor
  case shown =>
    intro projection had allowed
    rw [← isInclusion_iff, project_eq]
    cases isInclusion projection with
    | true =>
        have id : (shownFields document projection).get? "_id" =
            document.get? "_id" :=
          get?_id_shownFields (keepsId_of_allowed allowed)
        simpa [Document.identified, id] using had
    | false => simpa using identified_withoutNamed_iff proper had
  case same =>
    intro projection allowed
    rw [← isInclusion_iff, project_eq]
    cases isInclusion projection with
    | true => simpa using get?_id_shownFields (keepsId_of_allowed allowed)
    | false => simpa using get?_withoutNamed_eq_iff proper
  case selected =>
    intro envelope includes some_fields excludes
    have member (field : String) :
        field ∈ (envelope.select includes excludes).includes ↔
          field ∈ envelope.includes ++ includes :=
      Envelope.mem_includes_select
    rcases List.exists_mem_of_ne_nil includes some_fields with ⟨first, given⟩
    have shows : (envelope.select includes excludes).includes ≠ [] :=
      List.ne_nil_of_mem ((member first).mpr (List.mem_append_right _ given))
    simpa only [ShowsOnly, member] using
      showsOnly_project_iff proper shows

/-- Flagged alone, an identifier is hidden and all else is shown. -/
theorem identifierLaws_of_wellFormed_alone :
    Document.wellFormed [("_id", .ofInt 1), ("a", .ofInt 2)] = true ∧
      (∀ entry ∈ [("_id", Value.ofInt 1)], entry.1 = "_id" →
        entry.2.truthy = true) ∧
      (Document.project [("_id", .ofInt 1), ("a", .ofInt 2)]
        [("_id", .ofInt 1)]).identified = false ∧
      ¬ ShowsOnly ["_id"]
        (Document.project [("_id", .ofInt 1), ("a", .ofInt 2)]
          (Envelope.empty.select ["_id"] []).projection) := by
  have proper :
      Document.wellFormed [("_id", .ofInt 1), ("a", .ofInt 2)] = true := by
    decide +kernel
  have allowed : ∀ entry ∈ [("_id", Value.ofInt 1)], entry.1 = "_id" →
      entry.2.truthy = true := by
    decide
  have laws := identifierLaws_of_wellFormed proper
  have gone : ¬ (Document.project [("_id", .ofInt 1), ("a", .ofInt 2)]
      [("_id", .ofInt 1)]).identified = true := by
    rw [laws.shown rfl allowed]
    simp [Document.keys]
  refine ⟨proper, allowed, by simpa using gone, ?_⟩
  have selected := laws.selected Envelope.empty (List.cons_ne_nil "_id" []) []
  simpa [Envelope.empty, Document.keys] using selected

end Projection

end DocQuery
