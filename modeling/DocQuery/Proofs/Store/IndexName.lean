import DocQuery.Proofs.Store.Effect
import DocQuery.Proofs.Text.Pieces

/-!
# Names of indexes

The name made of a key is cut at its underscores.  As long as no field name
has a piece between underscores that reads as a direction, the pieces tell
where one field ends and the next begins, and keys over such fields have the
same name only if they are over the same fields in the same directions.

Other keys can share a name: a single field `a_1_b` and the two fields `a` and
`b` both give `a_1_b_1`.
-/

namespace DocQuery

/-- Lists that end, each for itself, before the mark of the other are told by
what they are up to and behind their marks. -/
theorem append_cons_inj_of_not_mem {Item : Type}
    {left right rest later : List Item} {mark other : Item}
    (leftLacks : other ∉ left) (rightLacks : mark ∉ right)
    (same : left ++ mark :: rest = right ++ other :: later) :
    left = right ∧ mark = other ∧ rest = later := by
  induction left generalizing right with
  | nil =>
      cases right with
      | nil => simpa using same
      | cons item items =>
          have reached : mark = item := (List.cons.inj same).1
          exact absurd (reached ▸ List.mem_cons_self) rightLacks
  | cons first others ih =>
      cases right with
      | nil =>
          have reached : first = other := (List.cons.inj same).1
          exact absurd (reached ▸ List.mem_cons_self) leftLacks
      | cons item items =>
          simp only [List.cons_append, List.cons.injEq] at same
          rcases same with ⟨rfl, same⟩
          rcases ih (List.not_mem_of_not_mem_cons leftLacks)
            (List.not_mem_of_not_mem_cons rightLacks) same with
              ⟨rfl, sameMark, sameRest⟩
          exact ⟨rfl, sameMark, sameRest⟩

/-- A direction as it stands in the name of an index. -/
def Direction.mark : Direction → List Char
  | .asc => ['1']
  | .desc => ['-', '1']

theorem Direction.mark_injective : Function.Injective mark := by
  intro left right same
  cases left <;> cases right <;> simp_all [mark]

namespace Index

/-- The fields of a key in order, each with the direction that its value
stands for. -/
def directed (key : Document) : List (String × Direction) :=
  key.map fun (path, value) => (path, .ofValue value)

/-- A field name reads as a direction between none of its underscores. -/
def isPlainPath (path : String) : Bool :=
  (Text.pieces '_' path.toList).all fun piece =>
    piece != Direction.asc.mark && piece != Direction.desc.mark

/-- All fields of a key have plain names. -/
def isPlain (key : Document) : Bool :=
  key.all fun (path, _) => isPlainPath path

theorem isPlainPath_iff {path : String} :
    isPlainPath path = true ↔
      ∀ direction : Direction,
        direction.mark ∉ Text.pieces '_' path.toList := by
  simp only [isPlainPath, List.all_eq_true, Bool.and_eq_true, bne_iff_ne]
  constructor
  · intro plain direction member
    cases direction with
    | asc => exact (plain _ member).1 rfl
    | desc => exact (plain _ member).2 rfl
  · intro absent piece member
    constructor
    · rintro rfl
      exact absent .asc member
    · rintro rfl
      exact absent .desc member

theorem map_fst_directed (key : Document) :
    (directed key).map Prod.fst = key.keys := by
  simp [directed, Document.keys, Function.comp_def]

theorem isPlain_eq_all_directed (key : Document) :
    isPlain key = (directed key).all fun (path, _) => isPlainPath path := by
  simp [isPlain, directed, List.all_map, Function.comp_def]

/-- What a field gives to the pieces of a name: those of the field name, then
the direction. -/
theorem pieces_namePart (path : String) (direction : Direction) :
    Text.pieces '_' (namePart path direction) =
      Text.pieces '_' path.toList ++ [direction.mark] := by
  have whole : '_' ∉ direction.mark := by
    cases direction <;> decide
  have shape : namePart path direction =
      path.toList ++ '_' :: direction.mark := by
    cases direction <;> rfl
  rw [shape, Text.pieces_append_cons, Text.pieces_of_not_mem whole]

/-- The pieces of the name of a key. -/
def namePieces (fields : List (String × Direction)) : List (List Char) :=
  fields.flatMap fun (path, direction) =>
    Text.pieces '_' path.toList ++ [direction.mark]

theorem pieces_nameOf {key : Document} (given : key ≠ []) :
    Text.pieces '_' (nameOf key).toList = namePieces (directed key) := by
  rw [nameOf, String.toList_ofList, Text.pieces_join _ (by simpa using given)]
  simp [namePieces, directed, List.flatMap_map, pieces_namePart]

/-- The name of a key is told by its directed fields. -/
theorem nameOf_congr {key other : Document}
    (same : directed key = directed other) : nameOf key = nameOf other := by
  have parts (key : Document) :
      (key.map fun (path, direction) =>
        namePart path (.ofValue direction)) =
      (directed key).map fun (path, direction) => namePart path direction := by
    simp [directed, Function.comp_def]
  rw [nameOf, nameOf, parts, parts, same]

/-- Plain fields are told by the pieces that they give: the first piece that
reads as a direction ends the first field. -/
theorem namePieces_inj {fields others : List (String × Direction)}
    (plain : ∀ field ∈ fields, isPlainPath field.1 = true)
    (othersPlain : ∀ field ∈ others, isPlainPath field.1 = true)
    (same : namePieces fields = namePieces others) : fields = others := by
  induction fields generalizing others with
  | nil =>
      cases others with
      | nil => rfl
      | cons other rest => simp [namePieces] at same
  | cons field rest ih =>
      cases others with
      | nil => simp [namePieces] at same
      | cons other later =>
          rcases field with ⟨path, direction⟩
          rcases other with ⟨otherPath, otherDirection⟩
          have pathPlain := isPlainPath_iff.mp (plain _ List.mem_cons_self)
          have otherPlain :=
            isPlainPath_iff.mp (othersPlain _ List.mem_cons_self)
          simp only [namePieces, List.flatMap_cons, List.append_assoc,
            List.singleton_append] at same
          rcases append_cons_inj_of_not_mem (pathPlain otherDirection)
            (otherPlain direction) same with
              ⟨samePath, sameDirection, sameRest⟩
          have equalPath : path = otherPath :=
            String.toList_inj.mp (Text.pieces_injective '_' samePath)
          have equalDirection := Direction.mark_injective sameDirection
          have equalRest := ih
            (fun field member => plain field (List.mem_cons_of_mem _ member))
            (fun field member =>
              othersPlain field (List.mem_cons_of_mem _ member)) sameRest
          rw [equalPath, equalDirection, equalRest]

/-- Keys with plain fields have the same name exactly if they are over the
same fields in the same order and directions. -/
theorem nameOf_eq_iff {key other : Document} (given : key ≠ [])
    (otherGiven : other ≠ []) (plain : isPlain key = true)
    (otherPlain : isPlain other = true) :
    nameOf key = nameOf other ↔ directed key = directed other := by
  constructor
  · intro same
    have pieces := congrArg (fun name => Text.pieces '_' name.toList) same
    simp only [pieces_nameOf given, pieces_nameOf otherGiven] at pieces
    rw [isPlain_eq_all_directed, List.all_eq_true] at plain otherPlain
    exact namePieces_inj plain otherPlain pieces
  · exact nameOf_congr

/-- The fields of the second key run together with their direction. -/
example : nameOf [("a_1_b", .ofInt 1)] =
    nameOf [("a", .ofInt 1), ("b", .ofInt 1)] := by decide

end Index

end DocQuery
