import DocQuery.Proofs.Document.Removal

/-!
# Paths that begin with other paths

What stands behind a path is part of what stands at it.  So what has been
copied to a path reads the same there and behind it, copying the same once more
changes nothing, and where nothing stands nothing stands behind.  Taking out
what stands at a path leaves all other names in their order, at every depth.
-/

namespace DocQuery

/-! ## Readable paths -/

theorem toList_eq_join (path : String) :
    path.toList =
      Text.join ['.'] ((pathNames path).map String.toList) := by
  rw [pathNames, Text.splitAt, List.map_map]
  simp [Function.comp_def, Text.join_pieces]

theorem join_prefix_join {separator : List Char}
    {pieces others : List (List Char)} (initial : pieces <+: others) :
    Text.join separator pieces <+: Text.join separator others := by
  induction pieces generalizing others with
  | nil => exact List.nil_prefix
  | cons piece rest ih =>
      rcases initial with ⟨more, rfl⟩
      cases rest with
      | nil =>
          cases more with
          | nil => exact List.prefix_refl _
          | cons next later =>
              rw [List.cons_append, List.nil_append, Text.join, Text.join,
                List.append_assoc]
              exact List.prefix_append _ _
      | cons next later =>
          rw [List.cons_append, List.cons_append, Text.join, Text.join]
          exact (List.prefix_append_right_inj _).mpr
            (ih (List.prefix_append _ _))

/-- What a readable path begins with is readable, unless it is empty. -/
theorem isReadablePath_of_prefix {path other : String} (nonempty : path ≠ "")
    (initial : pathNames path <+: pathNames other)
    (readable : isReadablePath other = true) :
    isReadablePath path = true := by
  have characters : path.toList <+: other.toList := by
    rw [toList_eq_join path, toList_eq_join other]
    exact join_prefix_join (initial.map _)
  rcases characters with ⟨more, whole⟩
  have bytes : path.utf8ByteSize ≤ other.utf8ByteSize := by
    rw [← String.ofList_toList (s := other), ← whole, String.ofList_append,
      String.ofList_toList, String.utf8ByteSize_append]
    exact Nat.le_add_right _ _
  have positive : 0 < path.utf8ByteSize := by
    rw [Nat.pos_iff_ne_zero, Ne, String.utf8ByteSize_eq_zero_iff]
    exact nonempty
  have names := initial.length_le
  simp only [isReadablePath, Bool.and_eq_true, decide_eq_true_eq]
    at readable ⊢
  exact ⟨⟨positive, Nat.le_trans bytes readable.1.2⟩,
    Nat.le_trans names readable.2⟩

namespace Document

variable {document shown : Document} {names others : List String}
  {value : Value}

/-! ## Reading behind a path -/

/-- Where names lead somewhere, those that they begin with do. -/
theorem isSome_follow?_of_prefix (given : names ≠ [])
    (initial : names <+: others)
    (found : (follow? others document).isSome = true) :
    (follow? names document).isSome = true := by
  induction names generalizing others document with
  | nil => exact absurd rfl given
  | cons name rest ih =>
      rcases initial with ⟨more, rfl⟩
      cases rest with
      | nil =>
          rcases Option.isSome_iff_exists.mp found with ⟨value, leads⟩
          exact isSome_get?_of_follow? leads
      | cons next later =>
          rw [List.cons_append, List.cons_append, follow?_cons_cons] at found
          rw [follow?_cons_cons]
          exact ih (List.cons_ne_nil _ _) (List.prefix_append _ _) found

/-- Behind names that lead nowhere there is nothing. -/
theorem follow?_eq_none_of_prefix (given : names ≠ [])
    (initial : names <+: others) (missing : follow? names document = none) :
    follow? others document = none := by
  rw [← Option.not_isSome_iff_eq_none] at missing ⊢
  intro found
  have before := isSome_follow?_of_prefix given initial found
  exact missing before

/-- What is written at names, and behind them, reads as in the document that it
was found in. -/
theorem follow?_place_of_prefix (initial : names <+: others)
    (found : follow? names document = some value) :
    follow? others (place names value shown) = follow? others document := by
  induction names generalizing others document shown with
  | nil => cases found
  | cons name rest ih =>
      rcases initial with ⟨more, rfl⟩
      cases rest with
      | nil =>
          refine follow?_cons_congr ?_ more
          rw [place, get?_insert_self]
          exact found.symm
      | cons next later =>
          rw [follow?_cons_cons] at found
          rw [List.cons_append, List.cons_append, follow?_cons_cons,
            follow?_cons_cons, place, subdocument_insert_self]
          exact ih (List.prefix_append _ _) found

theorem insert_of_get? {name : String}
    (found : document.get? name = some value) :
    document.insert name value = document := by
  induction document with
  | nil => cases found
  | cons entry rest ih =>
      rcases entry with ⟨key, old⟩
      by_cases same : key = name
      · simp only [get?_cons, same, if_true, Option.some.injEq] at found
        simp [insert, same, found]
      · simp only [get?_cons, same, if_false] at found
        simp [insert, same, ih found]

/-- Writing what stands there already changes nothing. -/
theorem place_of_follow? (found : follow? names document = some value) :
    place names value document = document := by
  induction names generalizing document with
  | nil => rfl
  | cons name rest ih =>
      cases rest with
      | nil => exact insert_of_get? found
      | cons next later =>
          simp only [follow?] at found
          split at found
          · next entries inner =>
              have same : document.subdocument name = entries := by
                rw [subdocument, inner]
              rw [place, same, ih found]
              exact insert_of_get? inner
          · cases found

/-! ## Names that stay -/

/-- The document at the end of a list of names, empty if there is none. -/
def inside : List String → Document → Document
  | [], document => document
  | name :: rest, document => inside rest (document.subdocument name)

theorem inside_nil_document (names : List String) : inside names [] = [] := by
  induction names with
  | nil => rfl
  | cons name rest ih => exact ih

/-- The documents behind a name depend on what is under it alone. -/
theorem inside_cons_congr {name : String} {first second : Document}
    (same : first.get? name = second.get? name) (rest : List String) :
    inside (name :: rest) first = inside (name :: rest) second := by
  simp only [inside, subdocument, same]

/-- Taking out what stands at some names leaves the other names in their order,
in every document within. -/
theorem keys_remove_sublist (proper : document.wellFormed = true)
    (present : (follow? names document).isSome = true)
    (others : List String) :
    (inside others (remove names document)).keys.Sublist
      (inside others document).keys := by
  induction names generalizing others document with
  | nil => exact List.Sublist.refl _
  | cons name rest ih =>
      cases others with
      | nil =>
          cases rest with
          | nil => exact (erase_sublist document name).map Prod.fst
          | cons next later =>
              rcases Option.isSome_iff_exists.mp present with ⟨value, leads⟩
              have named : name ∈ document.keys := by
                by_contra absent
                have there := isSome_get?_of_follow? leads
                rw [get?_eq_none_iff.mpr absent] at there
                cases there
              rw [inside, inside, remove, keys_insert, if_pos named]
      | cons other remaining =>
          by_cases same : name = other
          · subst same
            cases rest with
            | nil =>
                have gone : (document.erase name).subdocument name = [] := by
                  rw [subdocument,
                    get?_erase_self (wellFormed_iff.mp proper).1]
                rw [inside, remove, gone, inside_nil_document]
                exact List.nil_sublist _
            | cons next later =>
                rw [follow?_cons_cons] at present
                rw [inside, inside, remove, subdocument_insert_self]
                exact ih (wellFormed_subdocument proper name) present remaining
          · rw [inside_cons_congr (get?_remove_ne same rest document)]

theorem keys_unsetPath_sublist (proper : document.wellFormed = true)
    (path : String) (others : List String) :
    (inside others (document.unsetPath path)).keys.Sublist
      (inside others document).keys := by
  unfold unsetPath
  split
  · next value found =>
      unfold getPath? at found
      split at found
      · exact keys_remove_sublist proper (Option.isSome_of_eq_some found) others
      · cases found
  · exact List.Sublist.refl _

end Document

end DocQuery
