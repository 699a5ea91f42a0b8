import DocQuery.Projection
import DocQuery.Proofs.Document.Nesting

/-!
# What a projection shows

A projection that shows fields builds a document path by path.  Of overlapping
paths the later one writes into, or over, what the earlier one has copied; but
both copy from one document, so what is written over is written as it was.  A
projection that hides fields takes them out one after the other, and nothing
that is out comes back.  Either way a second projection finds its work done.
-/

namespace DocQuery

open Document (follow? place inside)

namespace Projection

variable {projection document shown : Document} {entry : String × Value}
  {names : List String}

/-! ## Showing fields -/

/-- At some names, and behind them, as much is shown as there is. -/
def ShowsAt (document shown : Document) (names : List String) : Prop :=
  ∀ others, names <+: others → follow? others shown = follow? others document

/-- No names lead anywhere in what is shown that lead nowhere in the
document. -/
def ShowsPart (document shown : Document) : Prop :=
  ∀ names, (follow? names shown).isSome = true →
    (follow? names document).isSome = true

theorem ShowsPart.eq_none (part : ShowsPart document shown)
    (missing : follow? names document = none) : follow? names shown = none := by
  rw [← Option.not_isSome_iff_eq_none] at missing ⊢
  exact fun there => missing (part names there)

/-- An entry adds nothing, or is a flag that says yes and adds what its path
leads to. -/
theorem showField_cases (document shown : Document) (entry : String × Value) :
    showField document shown entry = shown ∨
      entry.1 ≠ "_id" ∧ entry.2.truthy = true ∧
        ∃ value, follow? (pathNames entry.1) document = some value ∧
          showField document shown entry =
            place (pathNames entry.1) value shown := by
  unfold showField
  split
  · exact Or.inl rfl
  · next counts =>
      simp only [not_or, Bool.not_eq_false] at counts
      split
      · next value found =>
          unfold Document.getPath? at found
          split at found
          · exact Or.inr ⟨counts.1, counts.2, value, found, rfl⟩
          · cases found
      · exact Or.inl rfl

theorem showField_of_getPath? {value : Value} (notId : entry.1 ≠ "_id")
    (yes : entry.2.truthy = true)
    (found : document.getPath? entry.1 = some value) :
    showField document shown entry =
      place (pathNames entry.1) value shown := by
  simp only [showField, notId, yes, found, false_or, Bool.true_eq_false,
    if_false]
  rfl

theorem ShowsAt.showField (shows : ShowsAt document shown names)
    (entry : String × Value) :
    ShowsAt document (showField document shown entry) names := by
  rcases showField_cases document shown entry with
    same | ⟨-, -, value, found, placed⟩
  · rwa [same]
  · rw [placed]
    intro others behind
    by_cases before : pathNames entry.1 <+: others
    · exact Document.follow?_place_of_prefix before found
    by_cases after : others <+: pathNames entry.1
    · -- The path leads behind the names, where its value stands already.
      have there := shows (pathNames entry.1) (behind.trans after)
      rw [Document.place_of_follow? (there.trans found), shows others behind]
    · rw [Document.follow?_place_of_apart before after, shows others behind]

theorem ShowsPart.showField (part : ShowsPart document shown)
    (entry : String × Value) :
    ShowsPart document (showField document shown entry) := by
  rcases showField_cases document shown entry with
    same | ⟨-, -, value, found, placed⟩
  · rwa [same]
  · rw [placed]
    intro names there
    by_cases before : pathNames entry.1 <+: names
    · rwa [Document.follow?_place_of_prefix before found] at there
    by_cases after : names <+: pathNames entry.1
    · refine Document.isSome_follow?_of_prefix ?_ after
        (Option.isSome_of_eq_some found)
      rintro rfl
      cases there
    · rw [Document.follow?_place_of_apart before after] at there
      exact part names there

/-- The identifier that is kept is that of the document. -/
theorem get?_idPart (kept : keepsId projection = true) :
    (idPart projection document).get? "_id" = document.get? "_id" := by
  unfold idPart
  cases found : document.get? "_id" <;> simp [kept, Document.get?_cons]

/-- Before any field is shown, names lead through the identifier or nowhere. -/
theorem showsPart_idPart (projection document : Document) :
    ShowsPart document (idPart projection document) := by
  intro names there
  unfold idPart at there
  split at there
  · next id found =>
      split at there
      · cases names with
        | nil => cases there
        | cons name rest =>
            by_cases same : "_id" = name
            · subst same
              have same : Document.get? [("_id", id)] "_id" =
                  document.get? "_id" := by
                simp [Document.get?_cons, found]
              rwa [Document.follow?_cons_congr same] at there
            · have absent : Document.get? [("_id", id)] name = none := by
                simp [Document.get?_cons, same]
              rw [Document.follow?_cons_of_get?_eq_none absent] at there
              cases there
      · rw [Document.follow?_nil_document] at there
        cases there
  · rw [Document.follow?_nil_document] at there
    cases there

/-- What every field that is shown preserves holds of all that is shown. -/
theorem shownFields_induction (Invariant : Document → Prop)
    (initial : Invariant (idPart projection document))
    (step : ∀ shown entry, entry ∈ projection → Invariant shown →
      Invariant (showField document shown entry)) :
    Invariant (shownFields document projection) := by
  unfold shownFields
  exact List.foldlRecOn projection _ initial
    fun shown holds entry member => step shown entry member holds

theorem showsPart_shownFields (projection document : Document) :
    ShowsPart document (shownFields document projection) :=
  shownFields_induction (ShowsPart document)
    (showsPart_idPart projection document)
    fun _ entry _ part => part.showField entry

theorem showsAt_foldl (shows : ShowsAt document shown names)
    (entries : List (String × Value)) :
    ShowsAt document (entries.foldl (showField document) shown) names := by
  induction entries generalizing shown with
  | nil => exact shows
  | cons entry rest ih => exact ih (shows.showField entry)

/-- At a path that is flagged, and behind it, as much is shown as reading finds
there. -/
theorem showsAt_shownFields {value : Value} (member : entry ∈ projection)
    (notId : entry.1 ≠ "_id") (yes : entry.2.truthy = true)
    (found : document.getPath? entry.1 = some value) :
    ShowsAt document (shownFields document projection)
      (pathNames entry.1) := by
  rcases List.append_of_mem member with ⟨before, after, rfl⟩
  rw [shownFields, List.foldl_append, List.foldl_cons]
  refine showsAt_foldl ?_ after
  rw [showField_of_getPath? notId yes found]
  intro others behind
  unfold Document.getPath? at found
  split at found
  · exact Document.follow?_place_of_prefix behind found
  · cases found

/-- Nothing is shown at a path that is apart from all that is flagged. -/
theorem follow?_shownFields_of_apart {others : List String}
    (hidden : follow? others (idPart projection document) = none)
    (apart : ∀ entry ∈ projection, entry.2.truthy = true →
      ¬ pathNames entry.1 <+: others ∧ ¬ others <+: pathNames entry.1) :
    follow? others (shownFields document projection) = none := by
  refine shownFields_induction
    (fun shown => follow? others shown = none) hidden ?_
  intro shown entry member nothing
  rcases showField_cases document shown entry with
    same | ⟨-, yes, value, -, placed⟩
  · rw [same, nothing]
  · rcases apart entry member yes with ⟨notBefore, notBehind⟩
    rw [placed, Document.follow?_place_of_apart notBefore notBehind, nothing]

/-- At a path that is flagged, and behind it, reading finds what it finds in the
document.  Behind the empty path, which reading does not follow, it may not. -/
theorem getPath?_shownFields {path : String} (member : entry ∈ projection)
    (notId : entry.1 ≠ "_id") (yes : entry.2.truthy = true)
    (nonempty : entry.1 ≠ "") (behind : pathNames entry.1 <+: pathNames path) :
    (shownFields document projection).getPath? path =
      document.getPath? path := by
  unfold Document.getPath?
  split
  · next readable =>
      have flagged : isReadablePath entry.1 = true :=
        isReadablePath_of_prefix nonempty behind readable
      cases found : follow? (pathNames entry.1) document with
      | some value =>
          have seen : document.getPath? entry.1 = some value := by
            rw [Document.getPath?, if_pos flagged, found]
          exact showsAt_shownFields member notId yes seen _ behind
      | none =>
          -- Nothing is behind the path, and what is shown has no more.
          have missing : follow? (pathNames path) document = none :=
            Document.follow?_eq_none_of_prefix (pathNames_ne_nil entry.1)
              behind found
          rw [missing]
          exact (showsPart_shownFields projection document).eq_none missing
  · rfl

/-- The identifier is shown if it is kept. -/
theorem get?_id_shownFields (kept : keepsId projection = true) :
    (shownFields document projection).get? "_id" = document.get? "_id" := by
  have atFirst : ShowsAt document (idPart projection document) ["_id"] := by
    rintro _ ⟨rest, rfl⟩
    exact Document.follow?_cons_congr (get?_idPart kept) rest
  exact showsAt_foldl atFirst projection ["_id"] (List.prefix_refl _)

/-- What is shown, projected again, shows the same. -/
theorem shownFields_shownFields (projection document : Document) :
    shownFields (shownFields document projection) projection =
      shownFields document projection := by
  have sameId : idPart projection (shownFields document projection) =
      idPart projection document := by
    cases kept : keepsId projection with
    | true => simp only [idPart, get?_id_shownFields kept]
    | false =>
        have nothing (any : Document) : idPart projection any = [] := by
          unfold idPart
          split <;> simp [kept]
        rw [nothing, nothing]
  conv_lhs => rw [shownFields, sameId]
  conv_rhs => rw [shownFields]
  refine List.foldl_ext _ _ _ fun shown entry member => ?_
  by_cases counts : entry.1 ≠ "_id" ∧ entry.2.truthy = true
  · have same : (shownFields document projection).getPath? entry.1 =
        document.getPath? entry.1 := by
      by_cases empty : entry.1 = ""
      · have unreadable : isReadablePath "" = false := by decide +kernel
        simp [Document.getPath?, empty, unreadable]
      · exact getPath?_shownFields member counts.1 counts.2 empty
          (List.prefix_refl _)
    rw [showField, showField, same]
  · rw [not_and_or, not_not, Bool.not_eq_true] at counts
    simp only [showField, counts, if_true]

/-! ## Hiding fields -/

/-- What every name that is hidden from a well-formed document preserves holds
of what is left. -/
theorem withoutNamed_induction (proper : document.wellFormed = true)
    (Invariant : Document → Prop) (initial : Invariant document)
    (step : ∀ left entry, entry ∈ projection → left.wellFormed = true →
      Invariant left → Invariant (left.unsetPath entry.1)) :
    Invariant (withoutNamed document projection) := by
  have both : (withoutNamed document projection).wellFormed = true ∧
      Invariant (withoutNamed document projection) := by
    unfold withoutNamed
    refine List.foldlRecOn
      (motive := fun left => left.wellFormed = true ∧ Invariant left)
      projection _ ⟨proper, initial⟩ ?_
    rintro left ⟨leftProper, holds⟩ entry member
    exact ⟨Document.wellFormed_unsetPath leftProper entry.1,
      step left entry member leftProper holds⟩
  exact both.2

theorem wellFormed_withoutNamed (proper : document.wellFormed = true)
    (projection : Document) :
    (withoutNamed document projection).wellFormed = true :=
  withoutNamed_induction proper (fun left => left.wellFormed = true) proper
    fun _ entry _ leftProper _ =>
      Document.wellFormed_unsetPath leftProper entry.1

/-- What leads nowhere does so when more is hidden. -/
theorem follow?_withoutNamed_of_none (proper : document.wellFormed = true)
    (missing : follow? names document = none) (projection : Document) :
    follow? names (withoutNamed document projection) = none := by
  refine withoutNamed_induction proper (fun left => follow? names left = none)
    missing ?_
  intro left entry _ leftProper nothing
  rw [← Option.not_isSome_iff_eq_none] at nothing ⊢
  exact fun there =>
    nothing (Document.isSome_follow?_of_unsetPath leftProper there)

/-- Nothing is left at a readable path that is named, and behind it. -/
theorem follow?_withoutNamed_of_mem {others : List String}
    (proper : document.wellFormed = true) (member : entry ∈ projection)
    (readable : isReadablePath entry.1 = true)
    (behind : pathNames entry.1 <+: others) :
    follow? others (withoutNamed document projection) = none := by
  rcases List.append_of_mem member with ⟨before, after, rfl⟩
  have leftProper := wellFormed_withoutNamed proper before
  have split : withoutNamed document (before ++ entry :: after) =
      withoutNamed ((withoutNamed document before).unsetPath entry.1)
        after := by
    simp only [withoutNamed, List.foldl_append, List.foldl_cons]
  have out : follow? (pathNames entry.1)
      ((withoutNamed document before).unsetPath entry.1) = none := by
    have gone := Document.getPath?_unsetPath_self leftProper entry.1
    rwa [Document.getPath?, if_pos readable] at gone
  have stays := follow?_withoutNamed_of_none
    (Document.wellFormed_unsetPath leftProper entry.1) out after
  rw [split]
  exact Document.follow?_eq_none_of_prefix (pathNames_ne_nil entry.1) behind
    stays

/-- Paths apart from all that is named lead where they led. -/
theorem getPath?_withoutNamed_of_apart {path : String}
    (proper : document.wellFormed = true)
    (apart : ∀ entry ∈ projection, PathsApart entry.1 path) :
    (withoutNamed document projection).getPath? path =
      document.getPath? path := by
  refine withoutNamed_induction proper
    (fun left => left.getPath? path = document.getPath? path) rfl ?_
  intro left entry member _ same
  rw [Document.getPath?_unsetPath_of_apart (apart entry member), same]

/-- The names that are left stand in their order, in every document within. -/
theorem keys_withoutNamed_sublist (proper : document.wellFormed = true)
    (projection : Document) (names : List String) :
    (inside names (withoutNamed document projection)).keys.Sublist
      (inside names document).keys := by
  refine withoutNamed_induction proper
    (fun left => (inside names left).keys.Sublist (inside names document).keys)
    (List.Sublist.refl _) ?_
  intro left entry _ leftProper sublist
  exact (Document.keys_unsetPath_sublist leftProper entry.1 names).trans sublist

/-- Where all that is named is out, nothing is left to hide. -/
theorem withoutNamed_withoutNamed (proper : document.wellFormed = true)
    (projection : Document) :
    withoutNamed (withoutNamed document projection) projection =
      withoutNamed document projection := by
  -- The second run starts from what the first one has left, and stays there.
  have leftProper := wellFormed_withoutNamed proper projection
  refine withoutNamed_induction leftProper
    (fun left => left = withoutNamed document projection) rfl ?_
  rintro left entry member - rfl
  apply Document.unsetPath_of_getPath?_eq_none
  unfold Document.getPath?
  split
  · next readable =>
      exact follow?_withoutNamed_of_mem proper member readable
        (List.prefix_refl _)
  · rfl

/-! ## The laws of projections -/

/-- What is shown by a projection that shows fields. -/
structure ShowsSelected (projection document shown : Document) : Prop where
  /-- At a path that is flagged, and behind it, reading finds the same. -/
  selected {entry : String × Value} {path : String}
    (member : entry ∈ projection) (yes : entry.2.truthy = true)
    (nonempty : entry.1 ≠ "") (behind : pathNames entry.1 <+: pathNames path) :
    shown.getPath? path = document.getPath? path
  /-- The identifier is shown unless it is named. -/
  identifier (unnamed : "_id" ∉ projection.keys) :
    shown.get? "_id" = document.get? "_id"
  /-- A path apart from all that is flagged, and from an identifier that is
  kept, leads nowhere. -/
  unselected {path : String}
    (apart : ∀ entry ∈ projection, entry.2.truthy = true →
      PathsApart entry.1 path)
    (fromId : "_id" ∉ projection.keys → (document.get? "_id").isSome = true →
      PathsApart "_id" path) :
    shown.getPath? path = none

/-- What is left by a projection that hides fields. -/
structure HidesListed (projection document left : Document) : Prop where
  /-- A readable path that is named, and what is behind it, leads nowhere. -/
  hidden {entry : String × Value} {path : String}
    (member : entry ∈ projection) (readable : isReadablePath entry.1 = true)
    (behind : pathNames entry.1 <+: pathNames path) :
    left.getPath? path = none
  /-- A path apart from all that is named leads where it led. -/
  spared {path : String}
    (apart : ∀ entry ∈ projection, PathsApart entry.1 path) :
    left.getPath? path = document.getPath? path
  /-- The names that are left stand in their order, at every depth. -/
  ordered (names : List String) :
    (inside names left).keys.Sublist (inside names document).keys

theorem isInclusion_iff :
    isInclusion projection = true ↔
      ∃ entry ∈ projection, entry.1 ≠ "_id" ∧ entry.2.truthy = true := by
  simp [isInclusion]

theorem keepsId_of_not_mem (unnamed : "_id" ∉ projection.keys) :
    keepsId projection = true := by
  rw [keepsId, Document.get?_eq_none_iff.mpr unnamed]

/-- An identifier all of whose flags say no is kept only if it has none. -/
theorem not_mem_of_keepsId
    (denied : ∀ entry ∈ projection, entry.1 = "_id" →
      entry.2.truthy = false)
    (kept : keepsId projection = true) : "_id" ∉ projection.keys := by
  rw [← Document.get?_eq_none_iff]
  unfold keepsId at kept
  split at kept
  · next flag found =>
      have no := denied _ (Document.mem_of_get? found) rfl
      rw [no] at kept
      cases kept
  · next found => exact found

theorem showsSelected_shownFields
    (denied : ∀ entry ∈ projection, entry.1 = "_id" →
      entry.2.truthy = false) :
    ShowsSelected projection document (shownFields document projection) := by
  constructor
  case selected =>
    intro entry path member yes nonempty behind
    have notId : entry.1 ≠ "_id" := by
      intro id
      rw [denied entry member id] at yes
      cases yes
    exact getPath?_shownFields member notId yes nonempty behind
  case identifier =>
    intro unnamed
    exact get?_id_shownFields (keepsId_of_not_mem unnamed)
  case unselected =>
    intro path apart fromId
    have atFirst :
        follow? (pathNames path) (idPart projection document) = none := by
      unfold idPart
      split
      · next id found =>
          split
          · next kept =>
              have away := fromId (not_mem_of_keepsId denied kept)
                (by simp [found])
              rw [PathsApart, pathNames_id] at away
              have written : [("_id", id)] = place ["_id"] id [] := rfl
              rw [written, Document.follow?_place_of_apart away.1 away.2,
                Document.follow?_nil_document]
          · exact Document.follow?_nil_document _
      · exact Document.follow?_nil_document _
    rw [Document.getPath?, follow?_shownFields_of_apart atFirst apart, ite_self]

theorem hidesListed_withoutNamed (proper : document.wellFormed = true) :
    HidesListed projection document (withoutNamed document projection) := by
  constructor
  case hidden =>
    intro entry path member readable behind
    rw [Document.getPath?, follow?_withoutNamed_of_mem proper member readable
      behind, ite_self]
  case spared =>
    intro path apart
    exact getPath?_withoutNamed_of_apart proper apart
  case ordered => exact keys_withoutNamed_sublist proper projection

/-- A projection shows fields, hides fields, or is empty and does neither. -/
theorem project_eq (projection document : Document) :
    document.project projection =
      if isInclusion projection then shownFields document projection
      else withoutNamed document projection := by
  cases projection with
  | nil => rfl
  | cons entry rest => rfl

/-- A projection that does not flag the identifier shows what is at and behind
the paths that it flags, and nothing else but the identifier; or, if it flags
none, it hides what is at and behind the paths that it names, and nothing else.
Done twice it does the same as once. -/
theorem project_laws (proper : document.wellFormed = true)
    (denied : ∀ entry ∈ projection, entry.1 = "_id" →
      entry.2.truthy = false) :
    ((∃ entry ∈ projection, entry.1 ≠ "_id" ∧ entry.2.truthy = true) →
      ShowsSelected projection document (document.project projection)) ∧
    ((¬ ∃ entry ∈ projection, entry.1 ≠ "_id" ∧ entry.2.truthy = true) →
      HidesListed projection document (document.project projection)) ∧
    (document.project projection).project projection =
      document.project projection := by
  simp only [← isInclusion_iff, project_eq]
  cases isInclusion projection with
  | true =>
      refine ⟨fun _ => showsSelected_shownFields denied, by simp, ?_⟩
      exact shownFields_shownFields projection document
  | false =>
      refine ⟨by simp, fun _ => hidesListed_withoutNamed proper, ?_⟩
      exact withoutNamed_withoutNamed proper projection

/-- A path is shown before what it begins with, and hidden after it. -/
theorem project_laws_overlapping :
    Document.wellFormed
        [("_id", .ofInt 1),
          ("a", .document [("b", .ofInt 2), ("c", .ofInt 3)])] = true ∧
      (∀ entry ∈ [("a.b", Value.ofInt 1), ("a", .ofInt 1), ("_id", .ofInt 0)],
        entry.1 = "_id" → entry.2.truthy = false) ∧
      (∀ entry ∈ [("a", Value.ofInt 0), ("a.b", .ofInt 0)],
        entry.1 = "_id" → entry.2.truthy = false) ∧
      ShowsSelected [("a.b", .ofInt 1), ("a", .ofInt 1), ("_id", .ofInt 0)]
        [("_id", .ofInt 1),
          ("a", .document [("b", .ofInt 2), ("c", .ofInt 3)])]
        [("a", .document [("b", .ofInt 2), ("c", .ofInt 3)])] ∧
      HidesListed [("a", .ofInt 0), ("a.b", .ofInt 0)]
        [("_id", .ofInt 1),
          ("a", .document [("b", .ofInt 2), ("c", .ofInt 3)])]
        [("_id", .ofInt 1)] := by
  have proper : Document.wellFormed
      [("_id", .ofInt 1),
        ("a", .document [("b", .ofInt 2), ("c", .ofInt 3)])] = true := by
    decide +kernel
  have shownDenied :
      ∀ entry ∈ [("a.b", Value.ofInt 1), ("a", .ofInt 1), ("_id", .ofInt 0)],
        entry.1 = "_id" → entry.2.truthy = false := by
    decide
  have hiddenDenied :
      ∀ entry ∈ [("a", Value.ofInt 0), ("a.b", .ofInt 0)],
        entry.1 = "_id" → entry.2.truthy = false := by
    decide
  have shows := (project_laws proper shownDenied).1
    ⟨("a", .ofInt 1), by simp, by decide, by decide⟩
  have hides := (project_laws proper hiddenDenied).2.1 (by
    simp [Value.ofInt, Value.truthy])
  exact ⟨proper, shownDenied, hiddenDenied, shows, hides⟩

/-- Behind the empty path nothing is shown, for reading does not follow the
path that is flagged, while it does follow those that begin with it. -/
theorem not_selected_behind_emptyPath :
    ¬ ∀ projection document : Document, document.wellFormed = true →
      (∀ entry ∈ projection, entry.1 = "_id" → entry.2.truthy = false) →
        ∀ entry ∈ projection, entry.2.truthy = true →
          ∀ path, pathNames entry.1 <+: pathNames path →
            (document.project projection).getPath? path =
              document.getPath? path := by
  intro selected
  have shown := selected [("", .ofInt 1)]
    [("", .document [("a", .ofInt 1)])] rfl (by decide) ("", .ofInt 1)
    (by simp) (by decide) ".a" (by decide +kernel)
  have unreadable : isReadablePath "" = false := by decide +kernel
  have readable : isReadablePath ".a" = true := by decide +kernel
  have names : pathNames ".a" = ["", "a"] := by decide +kernel
  have empty : Document.project [("", .document [("a", .ofInt 1)])]
      [("", .ofInt 1)] = [] := by
    simp [project_eq, isInclusion, shownFields, idPart, showField,
      Document.get?_cons, Document.getPath?, unreadable, Value.ofInt,
      Value.truthy]
  rw [empty, Document.getPath?, Document.getPath?, if_pos readable, names]
    at shown
  cases shown

end Projection

end DocQuery
