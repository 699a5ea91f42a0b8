import DocQuery.Proofs.Document.Path
import DocQuery.Proofs.Value.WellFormed

/-!
# Taking values out along paths

Removing the value at a path writes the documents on the way anew, each at its
place, without the one entry.  Where a value is found nothing is put in the
way, so no list of names leads anywhere afterwards that led nowhere before;
and lists of names that are apart from the path lead where they led.
-/

namespace DocQuery

namespace Document

/-- Nothing is found behind a name that is not there. -/
theorem follow?_cons_of_get?_eq_none {name : String} {document : Document}
    (absent : document.get? name = none) (rest : List String) :
    follow? (name :: rest) document = none := by
  cases rest with
  | nil => exact absent
  | cons next others => simp only [follow?, absent]

/-- What is removed is not found any more. -/
theorem follow?_remove_self {document : Document}
    (proper : document.wellFormed = true) (names : List String) :
    follow? names (remove names document) = none := by
  induction names generalizing document with
  | nil => rfl
  | cons name rest ih =>
      cases rest with
      | nil => exact get?_erase_self (wellFormed_iff.mp proper).1 name
      | cons next others =>
          rw [follow?_cons_cons, remove, subdocument_insert_self]
          exact ih (wellFormed_subdocument proper name)

/-- Where a value is removed, no names lead anywhere that led nowhere before.
The way to the value is there already, so writing it anew adds no name. -/
theorem isSome_follow?_of_remove {document : Document}
    (proper : document.wellFormed = true) {names others : List String}
    (present : (follow? names document).isSome = true)
    (found : (follow? others (remove names document)).isSome = true) :
    (follow? others document).isSome = true := by
  induction names generalizing others document with
  | nil => cases present
  | cons name rest ih =>
      cases others with
      | nil => cases found
      | cons other remaining =>
          by_cases same : name = other
          · subst same
            cases rest with
            | nil =>
                have erased : (document.erase name).get? name = none :=
                  get?_erase_self (wellFormed_iff.mp proper).1 name
                rw [remove, follow?_cons_of_get?_eq_none erased] at found
                cases found
            | cons next further =>
                cases remaining with
                | nil =>
                    rcases Option.isSome_iff_exists.mp present with
                      ⟨value, leads⟩
                    exact isSome_get?_of_follow? leads
                | cons later last =>
                    rw [follow?_cons_cons] at present ⊢
                    rw [follow?_cons_cons, remove,
                      subdocument_insert_self] at found
                    exact ih (wellFormed_subdocument proper name) present found
          · rwa [follow?_cons_congr (get?_remove_ne same rest document)
              remaining] at found

/-! ## At paths -/

variable {document : Document} {path other : String}

@[simp]
theorem getPath?_setPath_self (readable : isReadablePath path = true)
    (value : Value) (document : Document) :
    (document.setPath path value).getPath? path = some value := by
  rw [getPath?, if_pos readable, setPath,
    follow?_place_self _ _ _ (pathNames_ne_nil path)]

@[simp]
theorem setPath_setPath (document : Document) (path : String)
    (first second : Value) :
    (document.setPath path first).setPath path second =
      document.setPath path second :=
  place_place ..

theorem unsetPath_of_getPath?_eq_some {value : Value}
    (found : document.getPath? path = some value) :
    document.unsetPath path = document.remove (pathNames path) := by
  rw [unsetPath, found]

theorem getPath?_unsetPath_self (proper : document.wellFormed = true)
    (path : String) : (document.unsetPath path).getPath? path = none := by
  cases found : document.getPath? path with
  | none => rw [unsetPath_of_getPath?_eq_none found, found]
  | some value =>
      rw [unsetPath_of_getPath?_eq_some found, getPath?,
        follow?_remove_self proper, ite_self]

theorem getPath?_unsetPath_of_apart (apart : PathsApart path other)
    (document : Document) :
    (document.unsetPath path).getPath? other = document.getPath? other := by
  unfold unsetPath
  split
  · simp only [getPath?, follow?_remove_of_apart apart.1 apart.2]
  · rfl

theorem isSome_follow?_of_unsetPath (proper : document.wellFormed = true)
    {names : List String}
    (found : (follow? names (document.unsetPath path)).isSome = true) :
    (follow? names document).isSome = true := by
  unfold unsetPath at found
  split at found
  · next value there =>
      unfold getPath? at there
      split at there
      · exact isSome_follow?_of_remove proper
          (Option.isSome_of_eq_some there) found
      · cases there
  · exact found

end Document

theorem PathsApart.symm {path other : String} (apart : PathsApart path other) :
    PathsApart other path :=
  ⟨apart.2, apart.1⟩

end DocQuery
