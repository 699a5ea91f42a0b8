/-!
# Pieces of a text

Cutting a text at a separator: into all of its pieces, or into the parts
before and after the first occurrence.  `join_pieces` says that the pieces,
put together again with the separator, give the text back.
-/

namespace DocQuery.Text

/-- The pieces between the occurrences of `separator`; there is always one. -/
def pieces (separator : Char) : List Char → List (List Char)
  | [] => [[]]
  | character :: rest =>
    if character = separator then
      [] :: pieces separator rest
    else
      match pieces separator rest with
      | [] => [[character]]
      | first :: others => (character :: first) :: others

/-- The pieces of `text` as texts. -/
def splitAt (separator : Char) (text : String) : List String :=
  (pieces separator text.toList).map String.ofList

/-- The parts before and after the first occurrence of `separator`. -/
def cut? (separator : Char) : List Char → Option (List Char × List Char)
  | [] => none
  | character :: rest =>
    if character = separator then
      some ([], rest)
    else
      (cut? separator rest).map fun (before, after) =>
        (character :: before, after)

/-- The rest of `characters` after the leading text `start`. -/
def after? : List Char → List Char → Option (List Char)
  | [], characters => some characters
  | _ :: _, [] => none
  | expected :: start, character :: rest =>
    if expected = character then after? start rest else none

/-- The parts before and after the first occurrence of the text `mark`. -/
def cutText? (mark : List Char) : List Char → Option (List Char × List Char)
  | [] => (after? mark []).map fun rest => ([], rest)
  | character :: rest =>
    match after? mark (character :: rest) with
    | some found => some ([], found)
    | none =>
      (cutText? mark rest).map fun (before, found) =>
        (character :: before, found)

/-- Put pieces together with a separator between them. -/
def join (separator : List Char) : List (List Char) → List Char
  | [] => []
  | [piece] => piece
  | piece :: next :: others => piece ++ separator ++ join separator (next :: others)

@[simp]
theorem pieces_ne_nil (separator : Char) (characters : List Char) :
    pieces separator characters ≠ [] := by
  cases characters with
  | nil => simp [pieces]
  | cons character rest =>
    by_cases same : character = separator
    · simp [pieces, same]
    · simp only [pieces, same, if_false]
      split <;> simp

theorem join_pieces (separator : Char) (characters : List Char) :
    join [separator] (pieces separator characters) = characters := by
  induction characters with
  | nil => rfl
  | cons character rest ih =>
    match found : pieces separator rest with
    | [] => exact absurd found (pieces_ne_nil separator rest)
    | first :: others =>
      rw [found] at ih
      by_cases same : character = separator
      · simp [pieces, found, same, join, ih]
      · cases others with
        | nil => simp_all [pieces, join]
        | cons next remaining => simp_all [pieces, join]

theorem cut?_eq_some {separator : Char} {characters before after : List Char}
    (found : cut? separator characters = some (before, after)) :
    characters = before ++ separator :: after ∧ separator ∉ before := by
  induction characters generalizing before with
  | nil => simp [cut?] at found
  | cons character rest ih =>
    by_cases same : character = separator
    · simp only [cut?, same, if_true, Option.some.injEq, Prod.mk.injEq]
        at found
      obtain ⟨rfl, rfl⟩ := found
      simp [same]
    · simp only [cut?, same, if_false, Option.map_eq_some_iff] at found
      obtain ⟨⟨initial, final⟩, inner, equal⟩ := found
      simp only [Prod.mk.injEq] at equal
      obtain ⟨rfl, rfl⟩ := equal
      obtain ⟨rfl, absent⟩ := ih inner
      simp [absent, Ne.symm same]

end DocQuery.Text
