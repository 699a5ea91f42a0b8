import DocQuery.Text.Blank
import DocQuery.Text.Pieces
import Mathlib.Data.List.DropRight
import Mathlib.Data.List.Infix

/-!
# Texts that are cut

Pieces between separators, the parts on both sides of the first separator, and
what a blank margin has to do with them.  The last piece of a text is what
stands behind the last separator, and the parts are what stands up to the first
one and behind it.
-/

namespace DocQuery.Text

variable {separator : Char}

/-! ## Pieces -/

theorem pieces_of_not_mem {characters : List Char}
    (absent : separator ∉ characters) :
    pieces separator characters = [characters] := by
  induction characters with
  | nil => rfl
  | cons character rest ih =>
      rw [List.mem_cons, not_or] at absent
      rcases absent with ⟨different, later⟩
      simp [pieces, Ne.symm different, ih later]

/-- A separator between two texts separates their pieces. -/
theorem pieces_append_cons (separator : Char) (first rest : List Char) :
    pieces separator (first ++ separator :: rest) =
      pieces separator first ++ pieces separator rest := by
  induction first with
  | nil => simp [pieces]
  | cons character others ih =>
      by_cases same : character = separator
      · simp [pieces, same, ih]
      · simp only [List.cons_append, pieces, same, if_false, ih]
        cases found : pieces separator others with
        | nil => exact absurd found (pieces_ne_nil separator others)
        | cons piece more => rfl

theorem pieces_join (separator : Char) {parts : List (List Char)}
    (given : parts ≠ []) :
    pieces separator (join [separator] parts) =
      parts.flatMap (pieces separator) := by
  induction parts with
  | nil => exact absurd rfl given
  | cons part rest ih =>
      cases rest with
      | nil => simp [join]
      | cons next others =>
          rw [join, List.append_assoc, List.singleton_append,
            pieces_append_cons, ih (by simp), ← List.flatMap_cons]

/-- A text is told by its pieces. -/
theorem pieces_injective (separator : Char) :
    Function.Injective (pieces separator) := by
  intro left right same
  rw [← join_pieces separator left, same, join_pieces]

/-- The last piece is what stands behind the last separator. -/
theorem getLast?_pieces (separator : Char) (characters : List Char) :
    (pieces separator characters).getLast? =
      some (characters.rtakeWhile (· != separator)) := by
  have absent : separator ∉ characters.rtakeWhile (· != separator) := by
    intro member
    simpa using List.mem_rtakeWhile_imp member
  have whole : characters.rdropWhile (· != separator) ++
      characters.rtakeWhile (· != separator) = characters :=
    List.rdropWhile_append_rtakeWhile
  rcases List.eq_nil_or_concat
    (characters.rdropWhile (· != separator)) with only | ⟨first, last, front⟩
  · rw [only, List.nil_append] at whole
    rw [whole] at absent ⊢
    rw [pieces_of_not_mem absent, List.getLast?_singleton]
  · have stops : last = separator := by
      have given : characters.rdropWhile (· != separator) ≠ [] := by
        simp [front]
      simpa [front] using List.rdropWhile_last_not (· != separator) _ given
    rw [front, stops, List.concat_eq_append, List.append_assoc,
      List.singleton_append] at whole
    conv_lhs => rw [← whole]
    rw [pieces_append_cons, pieces_of_not_mem absent]
    simp

/-! ## The first occurrence -/

/-- Where the first text has a separator, the cut is there, else in the second
text. -/
theorem cut?_append (separator : Char) (first rest : List Char) :
    cut? separator (first ++ rest) =
      match cut? separator first with
      | some (before, after) => some (before, after ++ rest)
      | none => (cut? separator rest).map fun (before, after) =>
          (first ++ before, after) := by
  induction first with
  | nil => simp [cut?]
  | cons character others ih =>
      by_cases same : character = separator
      · simp [cut?, same]
      · simp only [List.cons_append, cut?, same, if_false, ih]
        cases cut? separator others with
        | some parts => rfl
        | none => simp [Function.comp_def]

theorem cut?_eq_none {characters : List Char}
    (absent : separator ∉ characters) : cut? separator characters = none := by
  cases found : cut? separator characters with
  | none => rfl
  | some parts =>
      rw [(cut?_eq_some found).1] at absent
      simp at absent

theorem after?_eq_some {start characters rest : List Char}
    (found : after? start characters = some rest) :
    characters = start ++ rest := by
  induction start generalizing characters with
  | nil => exact Option.some.inj found
  | cons expected others ih =>
      cases characters with
      | nil => simp [after?] at found
      | cons character later =>
          by_cases same : expected = character
          · rw [after?, if_pos same] at found
            rw [same, ih found, List.cons_append]
          · simp [after?, same] at found

/-- No end of the mark is a beginning of it, so that a text without the mark
does not begin with it when the mark follows. -/
theorem after?_schemeMark {character : Char} {scheme : List Char}
    (absent : ¬ "://".toList <:+: character :: scheme) (rest : List Char) :
    after? "://".toList (character :: scheme ++ "://".toList ++ rest) =
      none := by
  rw [Option.eq_none_iff_forall_ne_some]
  intro remaining found
  have start := after?_eq_some found
  match scheme with
  | [] => simp at start
  | [_] => simp at start
  | first :: second :: others =>
      simp at start
      rcases start with ⟨rfl, rfl, rfl, -⟩
      exact absent (List.prefix_append _ others).isInfix

/-- The mark between a scheme and the hosts is found behind the scheme. -/
theorem cutText?_schemeMark {scheme : List Char}
    (absent : ¬ "://".toList <:+: scheme) (rest : List Char) :
    cutText? "://".toList (scheme ++ "://".toList ++ rest) =
      some (scheme, rest) := by
  induction scheme with
  | nil => rfl
  | cons character others ih =>
      have later : ¬ "://".toList <:+: others := fun inside =>
        absent (inside.trans (List.suffix_cons character others).isInfix)
      have elsewhere := after?_schemeMark absent rest
      rw [List.cons_append, List.cons_append] at elsewhere ⊢
      rw [cutText?, elsewhere]
      simp only [ih later, Option.map_some]

/-! ## Blank margins -/

theorem trimBlank_eq (characters : List Char) :
    trimBlank characters =
      (characters.dropWhile isBlank).rdropWhile isBlank := rfl

theorem trimBlank_concat (characters : List Char) {blank : Char}
    (isBlank : Text.isBlank blank = true) :
    trimBlank (characters ++ [blank]) = trimBlank characters := by
  rw [trimBlank_eq, trimBlank_eq, List.dropWhile_append]
  split
  · next none =>
      rw [List.isEmpty_iff.mp none, List.dropWhile_cons_of_pos isBlank]
      rfl
  · rw [List.rdropWhile_concat_pos _ _ _ isBlank]

/-- A reading that a blank at the end does not change is not changed by the
blank margin there. -/
theorem rdropWhile_of_concat {Answer : Type} (reading : List Char → Answer)
    (unmoved : ∀ characters blank, isBlank blank = true →
      reading (characters ++ [blank]) = reading characters)
    (characters : List Char) :
    reading (characters.rdropWhile isBlank) = reading characters := by
  induction characters using List.reverseRecOn with
  | nil => rw [List.rdropWhile_nil]
  | append_singleton others last ih =>
      by_cases blank : isBlank last = true
      · rw [List.rdropWhile_concat_pos _ _ _ blank, ih, unmoved _ _ blank]
      · rw [List.rdropWhile_concat_neg _ _ _ blank]

theorem dropWhile_append_cons (first rest : List Char) {solid : Char}
    (isSolid : isBlank solid = false) :
    (first ++ solid :: rest).dropWhile isBlank =
      first.dropWhile isBlank ++ solid :: rest := by
  rw [List.dropWhile_append]
  split
  · next none => simp [List.isEmpty_iff.mp none, isSolid]
  · rfl

theorem rdropWhile_append_cons (first rest : List Char) {solid : Char}
    (isSolid : isBlank solid = false) :
    (first ++ solid :: rest).rdropWhile isBlank =
      first ++ solid :: rest.rdropWhile isBlank := by
  induction rest using List.reverseRecOn with
  | nil => exact List.rdropWhile_concat_neg _ _ _ (by simp [isSolid])
  | append_singleton others last ih =>
      have regroup : first ++ solid :: (others ++ [last]) =
          (first ++ solid :: others) ++ [last] := by simp
      rw [regroup, List.rdropWhile_concat, List.rdropWhile_concat]
      split
      · exact ih
      · exact regroup.symm

/-- Both margins end at a character that is not blank. -/
theorem trimBlank_append_cons (first rest : List Char) {solid : Char}
    (isSolid : isBlank solid = false) :
    trimBlank (first ++ solid :: rest) =
      first.dropWhile isBlank ++ solid :: rest.rdropWhile isBlank := by
  rw [trimBlank_eq, dropWhile_append_cons _ _ isSolid,
    rdropWhile_append_cons _ _ isSolid]

end DocQuery.Text
