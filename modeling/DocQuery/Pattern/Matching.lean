import DocQuery.Pattern.Expression
import DocQuery.Unicode.Property

/-!
# Matching by sets of places

Matching follows all possibilities at once: an expression maps the set of
places where it may begin to the set of places where it may end.  A text of
`n` characters has `n + 1` places; a set of them is a list of flags.
`ends_sequence_cons` and its companions say how the mapping follows the
expression.
-/

namespace DocQuery.Pattern

/-- The characters before and after every place of a text. -/
def neighbours (text : List Char) : List (Option Char × Option Char) :=
  (none :: text.map some).zip (text.map some ++ [none])

/-- The places in either set. -/
def unite (left right : List Bool) : List Bool :=
  List.zipWith (· || ·) left right

/-- The places past a character that passes a test. -/
def advance (text : List Char) (accepts : Char → Bool) (places : List Bool) :
    List Bool :=
  false :: List.zipWith (fun open_ character => open_ && accepts character)
    places text

/-- Apply `next` to a set again and again, `count` times, or until it stops
changing. -/
def applyTimes (next : List Bool → List Bool) : Nat → List Bool → List Bool
  | 0, places => places
  | count + 1, places =>
    let moved := next places
    if moved = places then places else applyTimes next count moved

/-- Add what `next` makes of a set, `count` times, or until nothing is
added. -/
def growTimes (next : List Bool → List Bool) : Nat → List Bool → List Bool
  | 0, places => places
  | count + 1, places =>
    let grown := unite places (next places)
    if grown = places then places else growTimes next count grown

/-- Add the places past any number of characters that pass a test; `before`
tells whether the place in front was reached and its character passed, and
`seen` holds the flags so far, last one first. -/
def spread (accepts : Char → Bool) (before : Bool) (seen : List Bool) :
    List Char → List Bool → List Bool
  | character :: text, open_ :: places =>
    let reached := before || open_
    spread accepts (reached && accepts character) (reached :: seen) text places
  | _, places => seen.reverse ++ places.map (before || ·)

/-- Nothing, or a line feed, stands before a line. -/
def beginsLine (crlf : Bool) : Option Char → Option Char → Bool
  | none, _ => true
  | some '\n', _ => true
  | some '\r', after => crlf && after != some '\n'
  | _, _ => false

/-- Nothing, or a line feed, stands after a line. -/
def endsLine (crlf : Bool) : Option Char → Option Char → Bool
  | _, none => true
  | before, some '\n' => !crlf || before != some '\r'
  | _, some '\r' => crlf
  | _, _ => false

/-- A character inside a word. -/
def isWord (unicode : Bool) (character : Char) : Bool :=
  if unicode then Unicode.wordCharacters.contains character.toNat
  else character.isAlphanum || character == '_'

/-- The test of the neighbours of a place. -/
def Place.holds (kind : Place) (before after : Option Char) : Bool :=
  match kind with
  | .textStart => before.isNone
  | .textEnd => after.isNone
  | .lineStart crlf => beginsLine crlf before after
  | .lineEnd crlf => endsLine crlf before after
  | .boundary unicode =>
    before.any (isWord unicode) != after.any (isWord unicode)
  | .notBoundary unicode =>
    before.any (isWord unicode) == after.any (isWord unicode)
  | .wordStart unicode =>
    !before.any (isWord unicode) && after.any (isWord unicode)
  | .wordEnd unicode =>
    before.any (isWord unicode) && !after.any (isWord unicode)
  | .wordStartHalf unicode => !before.any (isWord unicode)
  | .wordEndHalf unicode => !after.any (isWord unicode)

namespace Expression

/-- The test of a literal of one character, or of a set. -/
def test? : Expression → Option (Char → Bool)
  | .literal [character] => some (· == character)
  | .oneOf _ set => some fun character => set.contains character.toNat
  | _ => none

/-- The test of an expression that matches one character. -/
def oneCharacter? : Expression → Option (Char → Bool)
  | .capture _ body => body.oneCharacter?
  | .choice branches =>
    (branches.mapM test?).map fun tests character =>
      tests.any fun accepts => accepts character
  | other => other.test?

mutual

/-- The places where the expression may end if it begins in `places`.  A
repetition without an upper bound can add places at most as often as there are
places; of a single character it adds them all at once. -/
def ends (text : List Char) : Expression → List Bool → List Bool
  | .empty, places => places
  | .literal characters, places =>
    characters.foldl
      (fun places character => advance text (· == character) places) places
  | .oneOf _ set, places =>
    advance text (fun character => set.contains character.toNat) places
  | .place kind, places =>
    List.zipWith (fun open_ (before, after) => open_ && kind.holds before after)
      places (neighbours text)
  | .repetition least most _ body, places =>
    let started := applyTimes (ends text body) least places
    match most with
    | some most => growTimes (ends text body) (most - least) started
    | none =>
      match body.oneCharacter? with
      | some accepts => spread accepts false [] text started
      | none => growTimes (ends text body) (text.length + 1) started
  | .capture _ body, places => ends text body places
  | .sequence items, places => sequenceEnds text items places
  | .choice branches, places => choiceEnds text branches places

/-- The places past one expression after the other. -/
def sequenceEnds (text : List Char) :
    List Expression → List Bool → List Bool
  | [], places => places
  | item :: items, places => sequenceEnds text items (ends text item places)

/-- The places past any one of the expressions. -/
def choiceEnds (text : List Char) :
    List Expression → List Bool → List Bool
  | [], places => places.map fun _ => false
  | branch :: branches, places =>
    unite (ends text branch places) (choiceEnds text branches places)

end

/-- The expression matches somewhere in a text. -/
def occursIn (expression : Expression) (text : String) : Bool :=
  let characters := text.toList
  let everywhere := List.replicate (characters.length + 1) true
  (expression.ends characters everywhere).any id

@[simp]
theorem ends_empty (text : List Char) (places : List Bool) :
    ends text .empty places = places := by simp [ends]

@[simp]
theorem ends_capture (text : List Char) (index : Nat) (body : Expression)
    (places : List Bool) :
    ends text (.capture index body) places = ends text body places := by
  simp [ends]

@[simp]
theorem ends_sequence_nil (text : List Char) (places : List Bool) :
    ends text (.sequence []) places = places := by simp [ends, sequenceEnds]

@[simp]
theorem ends_sequence_cons (text : List Char) (item : Expression)
    (items : List Expression) (places : List Bool) :
    ends text (.sequence (item :: items)) places =
      ends text (.sequence items) (ends text item places) := by
  simp [ends, sequenceEnds]

@[simp]
theorem ends_choice_cons (text : List Char) (branch : Expression)
    (branches : List Expression) (places : List Bool) :
    ends text (.choice (branch :: branches)) places =
      unite (ends text branch places) (ends text (.choice branches) places) := by
  simp [ends, choiceEnds]

end Expression

end DocQuery.Pattern
