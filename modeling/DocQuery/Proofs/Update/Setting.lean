import DocQuery.Proofs.Document.Path
import DocQuery.Proofs.Outcome
import DocQuery.Proofs.Value.WellFormed
import DocQuery.Update
import Mathlib.Algebra.Order.BigOperators.Group.List
import Mathlib.Algebra.Order.Group.Nat

/-!
# Setting fields

The operator that sets fields writes at many paths, one after the other, and a
later write may overwrite or rebuild what an earlier one wrote, when the path
of the one begins with that of the other.  Carried out a second time all of
them together nevertheless leave the document as it is, with its entries in
the same order.

The proof looks at one name at a time.  Under it only the writes count whose
path begins with this name, less the name.  Once one of them is to the name
itself, nothing depends on what stood there before; if none is, all of them go
into the document under the name, along shorter paths.
-/

namespace DocQuery

namespace Document

/-- The names on the way to a value, and the value to be written. -/
abbrev Write := List String × Value

/-- Carry out writes one after the other. -/
def placeAll (writes : List Write) (document : Document) : Document :=
  writes.foldl (fun written write => place write.1 write.2 written) document

@[simp]
theorem placeAll_nil (document : Document) : placeAll [] document = document :=
  rfl

@[simp]
theorem placeAll_cons (write : Write) (writes : List Write)
    (document : Document) :
    placeAll (write :: writes) document =
      placeAll writes (place write.1 write.2 document) := rfl

/-! ## Names -/

theorem keys_place_cons (name : String) (rest : List String) (value : Value)
    (document : Document) :
    (place (name :: rest) value document).keys =
      if name ∈ document.keys then document.keys
      else document.keys ++ [name] := by
  cases rest <;> exact keys_insert ..

theorem distinct_place {document : Document} (distinct : document.Distinct)
    (names : List String) (value : Value) :
    (place names value document).Distinct := by
  cases names with
  | nil => exact distinct
  | cons name rest => cases rest <;> exact distinct_insert distinct ..

theorem distinct_placeAll {document : Document}
    (distinct : document.Distinct) (writes : List Write) :
    (placeAll writes document).Distinct := by
  induction writes generalizing document with
  | nil => exact distinct
  | cons write rest ih => exact ih (distinct_place distinct ..)

/-- The names with which the paths of some writes begin. -/
def firstNames (writes : List Write) : List String :=
  writes.filterMap fun write => write.1.head?

theorem keys_subset_place (names : List String) (value : Value)
    (document : Document) :
    document.keys ⊆ (place names value document).keys := by
  cases names with
  | nil => exact List.Subset.refl _
  | cons name rest =>
      rw [keys_place_cons]
      split
      · exact List.Subset.refl _
      · exact List.subset_append_left _ _

theorem keys_subset_placeAll (writes : List Write) (document : Document) :
    document.keys ⊆ (placeAll writes document).keys := by
  induction writes generalizing document with
  | nil => exact List.Subset.refl _
  | cons write rest ih =>
      exact List.Subset.trans (keys_subset_place ..) (ih _)

/-- Every name that a write begins with is there afterwards. -/
theorem firstNames_subset_placeAll (writes : List Write)
    (document : Document) :
    firstNames writes ⊆ (placeAll writes document).keys := by
  induction writes generalizing document with
  | nil => exact List.nil_subset _
  | cons write rest ih =>
      rcases write with ⟨names, value⟩
      cases names with
      | nil => exact ih document
      | cons name others =>
          have written : name ∈ (place (name :: others) value document).keys
              := by
            rw [keys_place_cons]
            split
            · assumption
            · simp
          apply List.cons_subset.mpr
          exact ⟨keys_subset_placeAll rest _ written, ih _⟩

/-- No name is added if all of them are there. -/
theorem keys_placeAll_of_subset {writes : List Write} {document : Document}
    (present : firstNames writes ⊆ document.keys) :
    (placeAll writes document).keys = document.keys := by
  induction writes generalizing document with
  | nil => rfl
  | cons write rest ih =>
      rcases write with ⟨names, value⟩
      cases names with
      | nil => exact ih present
      | cons name others =>
          rcases List.cons_subset.mp present with ⟨here, later⟩
          have same : (place (name :: others) value document).keys =
              document.keys := by
            rw [keys_place_cons, if_pos here]
          rw [placeAll_cons, ih (same ▸ later), same]

/-- Documents with the same names in the same order and the same values are
the same. -/
theorem eq_of_get?_eq {first second : Document} (distinct : first.Distinct)
    (sameKeys : first.keys = second.keys)
    (same : ∀ name, first.get? name = second.get? name) : first = second := by
  induction first generalizing second with
  | nil => exact (List.map_eq_nil_iff.mp sameKeys.symm).symm
  | cons entry rest ih =>
      rcases entry with ⟨key, value⟩
      cases second with
      | nil => simp [keys] at sameKeys
      | cons other others =>
          rcases other with ⟨otherKey, otherValue⟩
          simp only [keys, List.map_cons, List.cons.injEq] at sameKeys
          rcases sameKeys with ⟨rfl, sameRest⟩
          simp only [Distinct, keys, List.map_cons, List.nodup_cons]
            at distinct
          have equal : value = otherValue := by
            simpa [get?_cons] using same key
          subst equal
          congr 1
          refine ih distinct.2 sameRest ?_
          intro name
          by_cases here : key = name
          · subst here
            have absent : get? rest key = none :=
              get?_eq_none_iff.mpr distinct.1
            have alsoAbsent : get? others key = none := by
              rw [sameRest] at distinct
              exact get?_eq_none_iff.mpr distinct.1
            rw [absent, alsoAbsent]
          · simpa [get?_cons, here] using same name

/-! ## What stands under one name -/

/-- The entries of a value that may be missing or no document. -/
def entriesOf : Option Value → Document
  | some (.document entries) => entries
  | _ => []

theorem subdocument_eq_entriesOf (document : Document) (name : String) :
    document.subdocument name = entriesOf (document.get? name) := by
  unfold subdocument entriesOf
  cases document.get? name <;> rfl

/-- What a write makes of the value at its start. -/
def written (names : List String) (value : Value) (current : Option Value) :
    Value :=
  match names with
  | [] => value
  | name :: rest => .document (place (name :: rest) value (entriesOf current))

theorem get?_place_self (name : String) (rest : List String) (value : Value)
    (document : Document) :
    (place (name :: rest) value document).get? name =
      some (written rest value (document.get? name)) := by
  cases rest with
  | nil => exact get?_insert_self ..
  | cons next others =>
      rw [place, get?_insert_self, subdocument_eq_entriesOf]
      rfl

/-- The writes whose paths begin with a name, less this name. -/
def under (name : String) (writes : List Write) : List Write :=
  writes.filterMap fun write =>
    match write.1 with
    | first :: rest => if first = name then some (rest, write.2) else none
    | [] => none

/-- What writes make of the value at their start. -/
def overwrite (writes : List Write) (current : Option Value) :
    Option Value :=
  writes.foldl (fun value write => some (written write.1 write.2 value))
    current

theorem overwrite_cons (write : Write) (writes : List Write)
    (current : Option Value) :
    overwrite (write :: writes) current =
      overwrite writes (some (written write.1 write.2 current)) := rfl

theorem get?_placeAll (writes : List Write) (document : Document)
    (name : String) :
    (placeAll writes document).get? name =
      overwrite (under name writes) (document.get? name) := by
  induction writes generalizing document with
  | nil => rfl
  | cons write rest ih =>
      rcases write with ⟨names, value⟩
      rw [placeAll_cons, ih]
      cases names with
      | nil => rfl
      | cons first others =>
          by_cases same : first = name
          · subst same
            rw [get?_place_self]
            simp [under, overwrite_cons]
          · rw [get?_place_ne same]
            simp [under, same]

/-- Behind a write of the value itself it does not matter what it was. -/
theorem overwrite_eq_of_mem {writes : List Write} {value : Value}
    (whole : ([], value) ∈ writes) (first second : Option Value) :
    overwrite writes first = overwrite writes second := by
  induction writes generalizing first second with
  | nil => simp at whole
  | cons write rest ih =>
      rcases List.mem_cons.mp whole with rfl | later
      · rfl
      · exact ih later _ _

/-- Writes that all go further change the document under the name. -/
theorem overwrite_document {writes : List Write}
    (inner : ∀ write ∈ writes, write.1 ≠ []) (entries : Document) :
    overwrite writes (some (.document entries)) =
      some (.document (placeAll writes entries)) := by
  induction writes generalizing entries with
  | nil => rfl
  | cons write rest ih =>
      rcases write with ⟨names, value⟩
      cases names with
      | nil => exact absurd rfl (inner _ List.mem_cons_self)
      | cons name others =>
          exact ih (fun later member =>
            inner later (List.mem_cons_of_mem _ member)) _

theorem overwrite_of_inner {write : Write} {writes : List Write}
    (inner : ∀ one ∈ write :: writes, one.1 ≠ []) (current : Option Value) :
    overwrite (write :: writes) current =
      some (.document (placeAll (write :: writes) (entriesOf current))) := by
  rcases write with ⟨names, value⟩
  cases names with
  | nil => exact absurd rfl (inner _ List.mem_cons_self)
  | cons name others =>
      exact overwrite_document (fun later member =>
        inner later (List.mem_cons_of_mem _ member)) _

theorem wellFormed_entriesOf {current : Option Value}
    (proper : ∀ value ∈ current, value.wellFormed = true) :
    (entriesOf current).wellFormed = true := by
  unfold entriesOf
  split
  · exact proper _ rfl
  · rfl

/-- What a second pass changes under one name is told by what it changes in a
document. -/
theorem overwrite_overwrite {writes : List Write}
    (repeated : ∀ {entries : Document}, entries.wellFormed = true →
      placeAll writes (placeAll writes entries) = placeAll writes entries)
    {current : Option Value}
    (proper : ∀ value ∈ current, value.wellFormed = true) :
    overwrite writes (overwrite writes current) = overwrite writes current := by
  by_cases whole : ∃ value, ([], value) ∈ writes
  · rcases whole with ⟨value, member⟩
    exact overwrite_eq_of_mem member _ _
  · have inner : ∀ write ∈ writes, write.1 ≠ [] := by
      rintro ⟨names, value⟩ member rfl
      exact whole ⟨value, member⟩
    cases writes with
    | nil => rfl
    | cons write rest =>
        rw [overwrite_of_inner inner, overwrite_of_inner inner]
        exact congrArg (fun entries => some (Value.document entries))
          (repeated (wellFormed_entriesOf proper))

/-! ## A second pass -/

/-- The paths under a name are shorter. -/
theorem length_lt_of_mem_under {writes : List Write} {bound : Nat}
    (bounded : ∀ write ∈ writes, write.1.length < bound + 1) {name : String}
    {write : Write} (member : write ∈ under name writes) :
    write.1.length < bound := by
  rcases List.mem_filterMap.mp member with ⟨⟨names, value⟩, longer, cut⟩
  have length := bounded _ longer
  cases names with
  | nil => simp at cut
  | cons first rest =>
      simp only [Option.ite_none_right_eq_some, Option.some.injEq] at cut
      rcases cut with ⟨-, rfl⟩
      simpa using length

theorem placeAll_placeAll_of_bounded {bound : Nat} {writes : List Write}
    (bounded : ∀ write ∈ writes, write.1.length < bound)
    {document : Document} (proper : document.wellFormed = true) :
    placeAll writes (placeAll writes document) = placeAll writes document := by
  induction bound generalizing writes document with
  | zero =>
      have none_given : writes = [] := by
        apply List.eq_nil_iff_forall_not_mem.mpr
        intro write member
        exact absurd (bounded write member) (Nat.not_lt_zero _)
      rw [none_given]
      rfl
  | succ bound ih =>
      have distinct := (wellFormed_iff.mp proper).1
      refine eq_of_get?_eq
        (distinct_placeAll (distinct_placeAll distinct _) _) ?_ ?_
      · exact keys_placeAll_of_subset (firstNames_subset_placeAll ..)
      · intro name
        rw [get?_placeAll, get?_placeAll]
        refine overwrite_overwrite ?_ ?_
        · intro entries entriesProper
          exact ih (fun write member =>
            length_lt_of_mem_under bounded member) entriesProper
        · intro value found
          exact wellFormed_of_get? proper found

/-- Writes that are carried out a second time change nothing. -/
theorem placeAll_placeAll (writes : List Write) {document : Document}
    (proper : document.wellFormed = true) :
    placeAll writes (placeAll writes document) = placeAll writes document := by
  have bounded : ∀ write ∈ writes, write.1.length <
      (writes.map fun write => write.1.length).sum + 1 := by
    intro write member
    exact Nat.lt_succ_of_le
      (List.le_sum_of_mem (List.mem_map_of_mem member))
  exact placeAll_placeAll_of_bounded bounded proper

/-! ## Elsewhere -/

/-- Writes are not seen on a path that is apart from all of theirs. -/
theorem follow?_placeAll_of_apart {writes : List Write}
    {names : List String}
    (apart : ∀ write ∈ writes,
      ¬ write.1 <+: names ∧ ¬ names <+: write.1) (document : Document) :
    follow? names (placeAll writes document) = follow? names document := by
  induction writes generalizing document with
  | nil => rfl
  | cons write rest ih =>
      rcases apart write List.mem_cons_self with ⟨notBefore, notBehind⟩
      rw [placeAll_cons, ih fun later member =>
        apart later (List.mem_cons_of_mem _ member)]
      exact follow?_place_of_apart notBefore notBehind write.2 document

theorem place_cons_ne {name key : String} (different : key ≠ name)
    (rest : List String) (value first : Value) (document : Document) :
    place (name :: rest) value ((key, first) :: document) =
      (key, first) :: place (name :: rest) value document := by
  cases rest with
  | nil => simp [place, insert, different]
  | cons next others =>
      simp [place, insert, different, subdocument, get?_cons]

/-- An entry at the front that no path begins with stays where it is. -/
theorem placeAll_cons_of_not_mem {writes : List Write} {key : String}
    (other : key ∉ firstNames writes) (first : Value) (document : Document) :
    placeAll writes ((key, first) :: document) =
      (key, first) :: placeAll writes document := by
  induction writes generalizing document with
  | nil => rfl
  | cons write rest ih =>
      rcases write with ⟨names, value⟩
      cases names with
      | nil => exact ih other document
      | cons name others =>
          have split : key ≠ name ∧ key ∉ firstNames rest :=
            not_or.mp (mt List.mem_cons.mpr other)
          rw [placeAll_cons, place_cons_ne split.1, ih split.2]
          rfl

end Document

namespace Update

/-! ## The operator -/

/-- The writes that the entries of a payload ask for. -/
def writesOf (entries : Document) : List Document.Write :=
  entries.map fun (path, value) => (pathNames path, value)

theorem forEach_setField (entries document : Document) :
    forEach setField entries document =
      .ok (document.placeAll (writesOf entries)) := by
  induction entries generalizing document with
  | nil => rfl
  | cons entry rest ih =>
      rcases entry with ⟨path, value⟩
      rw [forEach_cons]
      exact ih _

/-- An update that sets fields. -/
def setting (entries : Document) : Document :=
  [("$set", .document entries)]

/-- An update that sets fields succeeds on every document. -/
theorem result_setting (document entries : Document) :
    result document (setting entries) =
      .ok (document.placeAll (writesOf entries)) := by
  have named : isOperatorName "$set" = true := by decide
  simp only [result, setting, hasOperators, List.any_cons, List.any_nil,
    named, Bool.or_false, if_true, List.filter_cons, List.filter_nil,
    List.foldlM_cons, List.foldlM_nil, applyOperator, payload, Except.bind,
    forEach_setField]
  rfl

theorem apply_setting (document entries : Document) :
    (apply document (setting entries)).map Outcome.document =
      .ok (document.placeAll (writesOf entries)) := by
  rw [apply, result_setting]
  rfl

/-- To carry out the writes of a payload is to set its paths in order. -/
theorem placeAll_writesOf (document entries : Document) :
    document.placeAll (writesOf entries) =
      entries.foldl (fun written entry => written.setPath entry.1 entry.2)
        document := by
  rw [Document.placeAll, writesOf, List.foldl_map]
  rfl

/-- Setting fields succeeds, sets the paths of the payload in order, and changes
nothing when it is carried out a second time, whatever paths overlap. -/
theorem setting_idempotent {document : Document}
    (proper : document.wellFormed = true) (entries : Document) :
    ∃ first second,
      apply document (setting entries) = .ok first ∧
      first.document =
        entries.foldl (fun written entry => written.setPath entry.1 entry.2)
          document ∧
      apply first.document (setting entries) = .ok second ∧
      second.document = first.document := by
  rcases map_eq_ok_iff.mp (apply_setting document entries) with
    ⟨first, applied, written⟩
  rcases map_eq_ok_iff.mp (apply_setting first.document entries) with
    ⟨second, again, rewritten⟩
  refine ⟨first, second, applied, ?_, again, ?_⟩
  · rw [written, placeAll_writesOf]
  · rw [rewritten, written, Document.placeAll_placeAll _ proper]

/-- A path is overwritten by one that it begins with, rebuilt by a longer one,
and leads through an array. -/
theorem setting_idempotent_overlapping :
    let document : Document :=
      [("e", .array [.ofInt 7]), ("a", .document [("b", .null)])]
    let entries : Document :=
      [("a.b", .ofInt 1), ("a", .ofInt 2), ("a.c.d", .ofInt 3),
        ("e.x", .null)]
    ∃ first second,
      apply document (setting entries) = .ok first ∧
      apply first.document (setting entries) = .ok second ∧
      second.document = first.document := by
  intro document entries
  have proper : document.wellFormed = true := by decide
  rcases setting_idempotent proper entries with
    ⟨first, second, applied, -, again, same⟩
  exact ⟨first, second, applied, again, same⟩

end Update

end DocQuery
