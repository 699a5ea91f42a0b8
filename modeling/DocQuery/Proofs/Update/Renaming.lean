import DocQuery.Proofs.Document.Removal
import DocQuery.Proofs.Update.WellFormed

/-!
# Reading, writing, taking and moving along paths

The operations on paths keep the laws that are expected of them: a value that
was written is read, the last of two writes counts, what is taken out is what
was read and is gone afterwards, and nothing else is seen to change on paths
that are apart.  Renaming takes a value out at one path and writes it at
another one, so it moves the value and keeps what is apart from both.

Reading follows short and shallow paths only, so the laws are stated for
readable paths; they hold whatever stands on the way.
-/

namespace DocQuery

namespace Document

/-- Reading, writing and taking at one path of a document fit together. -/
structure LensLaws (document : Document) (path : String) : Prop where
  /-- What is written is read. -/
  read_written : ∀ value,
    (document.setPath path value).getPath? path = some value
  /-- The second of two writes is the one that counts. -/
  written_twice : ∀ first second,
    (document.setPath path first).setPath path second =
      document.setPath path second
  /-- What is read is what is taken out. -/
  taken : (document.takePath path).1 = document.getPath? path
  /-- Nothing is changed where nothing is taken out. -/
  kept_of_missing : document.getPath? path = none →
    (document.takePath path).2 = document
  /-- What is taken out is gone. -/
  missing_of_taken : (document.takePath path).2.getPath? path = none
  /-- Taking out puts no field in the way. -/
  no_field_of_taken : ∀ names,
    (follow? names (document.takePath path).2).isSome = true →
      (follow? names document).isSome = true

/-- Writing at a path and taking out there are not seen at another one. -/
structure Unseen (document : Document) (path other : String) : Prop where
  written : ∀ value,
    (document.setPath path value).getPath? other = document.getPath? other
  taken : (document.takePath path).2.getPath? other = document.getPath? other

/-- A document is another one after the value at a path, if any, has been moved
to a second path. -/
structure Moved (document after : Document) (path target : String) : Prop where
  arrived : ∀ value, document.getPath? path = some value →
    after.getPath? target = some value
  left_behind : after.getPath? path = none
  kept_of_missing : document.getPath? path = none → after = document
  elsewhere : ∀ other, PathsApart path other → PathsApart target other →
    after.getPath? other = document.getPath? other

variable {document : Document} {path other : String}

theorem lensLaws (proper : document.wellFormed = true)
    (readable : isReadablePath path = true) : LensLaws document path where
  read_written value := getPath?_setPath_self readable value document
  written_twice := setPath_setPath document path
  taken := takePath_fst document path
  kept_of_missing missing := by
    rw [takePath_snd, unsetPath_of_getPath?_eq_none missing]
  missing_of_taken := by
    rw [takePath_snd, getPath?_unsetPath_self proper]
  no_field_of_taken names found := by
    rw [takePath_snd] at found
    exact isSome_follow?_of_unsetPath proper found

theorem unseen_of_apart (apart : PathsApart path other)
    (document : Document) : Unseen document path other where
  written value := getPath?_setPath_of_apart apart value document
  taken := by rw [takePath_snd, getPath?_unsetPath_of_apart apart]

end Document

namespace Update

/-- An update that moves the value at one path to another one. -/
def moving (path target : String) : Document :=
  [("$rename", .document [(path, .string target)])]

theorem result_moving (document : Document) (path target : String) :
    result document (moving path target) =
      .ok (renameField document (path, target)) := by
  have named : isOperatorName "$rename" = true := by decide
  have read : renamePairs (.document [(path, .string target)]) =
      .ok [(path, target)] := rfl
  simp only [result, moving, hasOperators, List.any_cons, List.any_nil,
    named, Bool.or_false, if_true, List.filter_cons, List.filter_nil,
    List.foldlM_cons, List.foldlM_nil, applyOperator, read]
  rfl

theorem apply_moving (document : Document) (path target : String) :
    (apply document (moving path target)).map Outcome.document =
      .ok (renameField document (path, target)) := by
  rw [apply, result_moving]
  rfl

variable {document : Document} {path target : String}

theorem moved_renameField (proper : document.wellFormed = true)
    (readable : isReadablePath target = true)
    (apart : PathsApart path target) :
    document.Moved (renameField document (path, target)) path target := by
  rw [renameField_eq]
  cases found : document.getPath? path with
  | none =>
    exact
      { arrived := fun value there => by rw [found] at there; cases there
        left_behind := found
        kept_of_missing := fun _ => rfl
        elsewhere := fun _ _ _ => rfl }
  | some value =>
    constructor
    case arrived =>
      intro other there
      rw [Document.getPath?_setPath_self readable, ← there, found]
    case left_behind =>
      rw [Document.getPath?_setPath_of_apart apart.symm,
        Document.getPath?_unsetPath_self proper]
    case kept_of_missing =>
      intro missing
      rw [found] at missing
      cases missing
    case elsewhere =>
      intro other apartFromPath apartFromTarget
      rw [Document.getPath?_setPath_of_apart apartFromTarget,
        Document.getPath?_unsetPath_of_apart apartFromPath]

/-- Reading, writing and taking fit together at every readable path, are not
seen at paths that are apart, and renaming moves a value between such paths
and keeps all that is apart from both. -/
theorem paths_lawful (proper : document.wellFormed = true)
    (readable : isReadablePath path = true)
    (targetReadable : isReadablePath target = true) :
    document.LensLaws path ∧
      (PathsApart path target →
        document.Unseen path target ∧
          ∃ outcome, apply document (moving path target) = .ok outcome ∧
            document.Moved outcome.document path target) := by
  refine ⟨Document.lensLaws proper readable, fun apart => ⟨?_, ?_⟩⟩
  · exact Document.unseen_of_apart apart document
  · rcases map_eq_ok_iff.mp (apply_moving document path target) with
      ⟨outcome, applied, after⟩
    refine ⟨outcome, applied, ?_⟩
    rw [after]
    exact moved_renameField proper targetReadable apart

/-- A value is moved to a path that leads through a number, which has to make
room. -/
theorem paths_lawful_throughNumber :
    let document : Document :=
      [("a", .document [("b", .ofInt 1), ("e", .null)]), ("c", .ofInt 2),
        ("f", .array [])]
    ∃ outcome, apply document (moving "a.b" "c.d") = .ok outcome ∧
      outcome.document.getPath? "c.d" = some (.ofInt 1) ∧
      outcome.document.getPath? "a.b" = none ∧
      outcome.document.getPath? "a.e" = some .null := by
  intro document
  have reads (name : String) (value : Value)
      (names : pathNames ("a." ++ name) = ["a", name])
      (readable : isReadablePath ("a." ++ name) = true)
      (inner : Document.get? [("b", .ofInt 1), ("e", .null)] name =
        some value) :
      document.getPath? ("a." ++ name) = some value := by
    rw [Document.getPath?, if_pos readable, names]
    exact inner
  have proper : document.wellFormed = true := by decide
  have readable : isReadablePath "a.b" = true := by decide +kernel
  have targetReadable : isReadablePath "c.d" = true := by decide +kernel
  rcases paths_lawful proper readable targetReadable with ⟨-, frames⟩
  rcases (frames (by decide +kernel)).2 with ⟨outcome, applied, moved⟩
  refine ⟨outcome, applied, moved.arrived _ ?_, moved.left_behind, ?_⟩
  · exact reads "b" _ (by decide +kernel) (by decide +kernel) rfl
  · rw [moved.elsewhere "a.e" (by decide +kernel) (by decide +kernel)]
    exact reads "e" _ (by decide +kernel) (by decide +kernel) rfl

end Update

end DocQuery
