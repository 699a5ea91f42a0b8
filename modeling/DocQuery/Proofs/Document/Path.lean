import DocQuery.Document.Path
import Mathlib.Tactic.Common

/-!
# Reading after writing along paths

A path is its list of names.  Two paths are apart when neither list begins
with the other one; then what is written at the one is not seen at the other,
even when the way there leads through a scalar that has to make room.
-/

namespace DocQuery

/-! ## The names on a path -/

theorem pathNames_ne_nil (path : String) : pathNames path ≠ [] := by
  simp [pathNames, Text.splitAt]

theorem pathNames_eq_singleton {path name : String}
    (one : pathNames path = [name]) : path = name := by
  simp only [pathNames, Text.splitAt] at one
  rcases List.map_eq_singleton_iff.mp one with ⟨piece, cut, rfl⟩
  have joined := Text.join_pieces '.' path.toList
  rw [cut] at joined
  simp only [Text.join] at joined
  rw [joined, String.ofList_toList]

theorem pathNames_id : pathNames "_id" = ["_id"] := by decide +kernel

/-- Neither of two paths begins with the other one. -/
def PathsApart (left right : String) : Prop :=
  ¬ pathNames left <+: pathNames right ∧ ¬ pathNames right <+: pathNames left

instance (left right : String) : Decidable (PathsApart left right) :=
  inferInstanceAs (Decidable (_ ∧ _))

namespace Document

/-! ## One name at a time -/

theorem follow?_nil_document (names : List String) :
    follow? names [] = none := by
  cases names with
  | nil => rfl
  | cons name rest => cases rest <;> rfl

/-- Reading goes on in the document under the first name. -/
theorem follow?_cons_cons (name next : String) (rest : List String)
    (document : Document) :
    follow? (name :: next :: rest) document =
      follow? (next :: rest) (document.subdocument name) := by
  simp only [follow?, subdocument]
  split
  · rfl
  · rw [follow?_nil_document]

/-- Reading depends on what is under the first name alone. -/
theorem follow?_cons_congr {name : String} {first second : Document}
    (same : first.get? name = second.get? name) (rest : List String) :
    follow? (name :: rest) first = follow? (name :: rest) second := by
  cases rest with
  | nil => exact same
  | cons next others => simp only [follow?, same]

@[simp]
theorem subdocument_insert_self (document entries : Document) (name : String) :
    (document.insert name (.document entries)).subdocument name = entries := by
  simp [subdocument]

/-- What a path leads to is under its first name. -/
theorem isSome_get?_of_follow? {name : String} {rest : List String}
    {document : Document} {value : Value}
    (found : follow? (name :: rest) document = some value) :
    (document.get? name).isSome = true := by
  cases rest with
  | nil => simp [show document.get? name = some value from found]
  | cons next others =>
      simp only [follow?] at found
      split at found
      · next entries inner => simp [inner]
      · simp at found

theorem isSome_get?_place_self (name : String) (rest : List String)
    (value : Value) (document : Document) :
    ((place (name :: rest) value document).get? name).isSome = true := by
  cases rest <;> simp [place]

theorem get?_place_ne {name other : String} (different : name ≠ other)
    (rest : List String) (value : Value) (document : Document) :
    (place (name :: rest) value document).get? other = document.get? other := by
  cases rest <;> exact get?_insert_ne document different _

theorem get?_remove_ne {name other : String} (different : name ≠ other)
    (rest : List String) (document : Document) :
    (remove (name :: rest) document).get? other = document.get? other := by
  cases rest with
  | nil => exact get?_erase_ne document different
  | cons next others => exact get?_insert_ne document different _

/-- A scalar under a new name is seen on the path that is this name only. -/
theorem follow?_cons_objectId {names : List String} {name : String}
    {document : Document} (id : ObjectId)
    (absent : document.get? name = none) (other : names ≠ [name]) :
    follow? names ((name, .objectId id) :: document) =
      follow? names document := by
  cases names with
  | nil => rfl
  | cons first rest =>
      by_cases same : name = first
      · subst same
        cases rest with
        | nil => exact absurd rfl other
        | cons next others => simp [follow?, get?_cons, absent]
      · cases rest with
        | nil => simp [follow?, get?_cons, same]
        | cons next others => simp [follow?, get?_cons, same]

theorem getPath?_id (document : Document) :
    document.getPath? "_id" = document.get? "_id" := by
  have readable : isReadablePath "_id" = true := by decide +kernel
  simp [getPath?, readable, pathNames_id, follow?]

/-! ## What is taken out -/

/-- What is removed is what reading finds. -/
theorem removed_eq_follow? (names : List String) (document : Document) :
    removed names document = follow? names document := by
  induction names generalizing document with
  | nil => rfl
  | cons name rest ih =>
      cases rest with
      | nil => rfl
      | cons next others => rw [removed, ih, follow?_cons_cons]

@[simp]
theorem takePath_fst (document : Document) (path : String) :
    (document.takePath path).1 = document.getPath? path := by
  unfold takePath
  cases found : document.getPath? path with
  | none => rfl
  | some value =>
      unfold getPath? at found
      split at found
      · rw [removed_eq_follow?, found]
      · cases found

/-! ## Paths that are apart -/

/-- A change along names that goes on in the document under the first name, and
leaves what is under all others, is not seen by names that are apart. -/
theorem follow?_change_of_apart {change : List String → Document → Document}
    (outside : ∀ {name other : String}, name ≠ other →
      ∀ rest document, (change (name :: rest) document).get? other =
        document.get? other)
    (inside : ∀ name next rest document,
      (change (name :: next :: rest) document).subdocument name =
        change (next :: rest) (document.subdocument name))
    {names others : List String} (notBefore : ¬ names <+: others)
    (notBehind : ¬ others <+: names) (document : Document) :
    follow? others (change names document) = follow? others document := by
  induction names generalizing others document with
  | nil => exact absurd List.nil_prefix notBefore
  | cons name rest ih =>
      cases others with
      | nil => exact absurd List.nil_prefix notBehind
      | cons other remaining =>
          by_cases same : name = other
          · subst same
            simp only [List.prefix_cons_inj] at notBefore notBehind
            cases rest with
            | nil => exact absurd List.nil_prefix notBefore
            | cons next further =>
                cases remaining with
                | nil => exact absurd List.nil_prefix notBehind
                | cons later last =>
                    rw [follow?_cons_cons, follow?_cons_cons, inside]
                    exact ih notBefore notBehind _
          · exact follow?_cons_congr (outside same rest document) remaining

/-- What is written at a path is not seen at another one that is apart. -/
theorem follow?_place_of_apart {names others : List String}
    (notBefore : ¬ names <+: others) (notBehind : ¬ others <+: names)
    (value : Value) (document : Document) :
    follow? others (place names value document) = follow? others document := by
  refine @follow?_change_of_apart (fun names => place names value) ?_ ?_ _ _
    notBefore notBehind document
  · intro name other different rest document
    exact get?_place_ne different rest value document
  · intro name next rest document
    exact subdocument_insert_self ..

/-- What is removed at a path is not missed at another one that is apart. -/
theorem follow?_remove_of_apart {names others : List String}
    (notBefore : ¬ names <+: others) (notBehind : ¬ others <+: names)
    (document : Document) :
    follow? others (remove names document) = follow? others document := by
  refine follow?_change_of_apart ?_ ?_ notBefore notBehind document
  · exact get?_remove_ne
  · intro name next rest document
    exact subdocument_insert_self ..

theorem getPath?_setPath_of_apart {path other : String}
    (apart : PathsApart path other) (value : Value) (document : Document) :
    (document.setPath path value).getPath? other = document.getPath? other := by
  simp only [getPath?, setPath, follow?_place_of_apart apart.1 apart.2]

end Document

end DocQuery
