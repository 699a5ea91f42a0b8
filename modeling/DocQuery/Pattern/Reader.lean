import DocQuery.Pattern.Tree
import DocQuery.Text.Blank
import DocQuery.Text.Digits
import DocQuery.Text.Pieces
import DocQuery.Unicode.Property

/-!
# Reading parts of a pattern

The position of a reader in a pattern, and the parts that do not nest: flags,
escapes, named classes and the bounds of a repetition.  Every function gives
`none` for text that is no such part.
-/

namespace DocQuery.Pattern

open Text

/-- What is left of a pattern, and what has been agreed on the way. -/
structure Reader where
  /-- The characters not yet read. -/
  rest : List Char
  /-- Blanks and comments mean nothing here. -/
  verbose : Bool
  /-- The names given to groups so far. -/
  names : List (List Char)
  /-- How many groups that keep what they match have been opened. -/
  groups : Nat

mutual

/-- Drop blanks and comments. -/
def dropFiller : List Char → List Char
  | [] => []
  | character :: rest =>
    if isBlank character then dropFiller rest
    else if character = '#' then dropComment rest
    else character :: rest

/-- Drop the rest of a comment, and then blanks and further comments. -/
def dropComment : List Char → List Char
  | [] => []
  | character :: rest =>
    if character = '\n' then dropFiller rest else dropComment rest

end

namespace Reader

/-- Move past what means nothing here. -/
def settle (reader : Reader) : Reader :=
  if reader.verbose then { reader with rest := dropFiller reader.rest }
  else reader

/-- Move past one character. -/
def step (reader : Reader) : Reader := { reader with rest := reader.rest.drop 1 }

/-- Move past one character and past what means nothing after it. -/
def advance (reader : Reader) : Reader := reader.step.settle

/-- The first character that stands for itself, past blanks and the mark of a
comment. -/
def firstSolid : Bool → List Char → Option Char
  | _, [] => none
  | inComment, character :: rest =>
    if isBlank character then firstSolid inComment rest
    else if character = '#' ∧ inComment = false then firstSolid true rest
    else some character

/-- The character after the next one. -/
def afterNext (reader : Reader) : Option Char :=
  if reader.verbose then firstSolid false (reader.rest.drop 1)
  else (reader.rest.drop 1).head?

end Reader

/-- The flag of a letter. -/
def flag? : Char → Option Flag
  | 'i' => some .ignoreCase
  | 'm' => some .multiLine
  | 's' => some .dotAll
  | 'U' => some .swapGreed
  | 'u' => some .unicode
  | 'R' => some .crlf
  | 'x' => some .verbose
  | _ => none

/-- Read flags up to a colon or closing parenthesis.  No flag may be named
twice, and one minus sign may stand before a flag. -/
def flags? (change : FlagChange) (negated dangling : Bool) :
    List Char → Option (FlagChange × List Char)
  | [] => none
  | character :: rest =>
    if character = ':' ∨ character = ')' then
      if dangling then none else some (change, character :: rest)
    else if character = '-' then
      if negated then none else flags? change true true rest
    else
      match flag? character with
      | none => none
      | some flag =>
        if change.any fun (known, _) => known == flag then none
        else flags? (change ++ [(flag, !negated)]) negated false rest

/-- The setting of one flag, if the change sets it. -/
def FlagChange.setting? (change : FlagChange) (flag : Flag) : Option Bool :=
  (change.find? fun (known, _) => known == flag).map Prod.snd

/-- Characters with a meaning of their own outside or inside classes. -/
def isMeta (character : Char) : Bool :=
  "\\.+*?()|[]\x7b\x7d^$#&-~".toList.contains character

/-- Characters that may follow a backslash and then stand for themselves. -/
def isEscapable (character : Char) : Bool :=
  isMeta character ||
    (decide (character.toNat < 128) && !character.isAlphanum &&
      character != '<' && character != '>')

/-- The characters that may occur in the name of a group. -/
def isNameCharacter (first : Bool) (character : Char) : Bool :=
  character == '_' || Unicode.nameLetters.contains character.toNat ||
    (!first && (character == '.' || character == '[' || character == ']' ||
      Unicode.nameNumbers.contains character.toNat))

/-- Read the name of a group up to its closing bracket. -/
def groupName? (reader : Reader) : Option Reader :=
  let name := reader.rest.takeWhile (· != '>')
  match reader.rest.drop name.length with
  | '>' :: rest =>
    match name with
    | [] => none
    | first :: others =>
      if isNameCharacter true first && others.all (isNameCharacter false) &&
          !reader.names.contains name then
        some { reader with rest := rest, names := name :: reader.names }
      else
        none
  | _ => none

/-- The character with a code point, unless it is a surrogate or too large. -/
def scalar? (code : Nat) : Option Char :=
  if code < 0xD800 ∨ (0xDFFF < code ∧ code < 0x110000) then
    some (Char.ofNat code)
  else
    none

/-- Read a fixed number of hexadecimal digits. -/
def fixedHex? : Nat → Nat → Reader → Option (Nat × Reader)
  | 0, value, reader => some (value, reader)
  | count + 1, value, reader =>
    match reader.rest with
    | [] => none
    | character :: _ => do
      let digit ← hexDigit? character
      fixedHex? count (value * 16 + digit) reader.advance

/-- Read hexadecimal digits up to a closing brace; `fuel` bounds their
count. -/
def bracedHex? : Nat → List Char → Reader → Option (List Char × Reader)
  | 0, _, _ => none
  | fuel + 1, digits, reader =>
    match reader.rest with
    | [] => none
    | '\x7d' :: _ => some (digits.reverse, reader.advance)
    | character :: _ =>
      if (hexDigit? character).isSome then
        bracedHex? fuel (character :: digits) reader.advance
      else
        none

/-- Read a character given by its code point; the reader stands at the letter
that says how many digits follow. -/
def hexCharacter? (count : Nat) (reader : Reader) : Option (Tree × Reader) :=
  let inner := reader.advance
  match inner.rest with
  | [] => none
  | '\x7b' :: _ => do
    let (digits, last) ← bracedHex? (inner.rest.length + 1) [] inner.advance
    let code ← hexadecimal? digits
    let character ← scalar? code
    some (.literal character false, last)
  | _ => do
    let (code, last) ← fixedHex? count 0 inner
    let character ← scalar? code
    some (.literal character (count == 2), last)

/-- Read the text between braces, without filler; `fuel` bounds its length. -/
def bracedName? : Nat → List Char → Reader → Option (List Char × Reader)
  | 0, _, _ => none
  | fuel + 1, name, reader =>
    match reader.rest with
    | [] => none
    | '\x7d' :: _ => some (name.reverse, reader.step)
    | character :: _ => bracedName? fuel (character :: name) reader.advance

/-- What the text of a property class asks for, and whether it asks for the
opposite. -/
def propertyQuery (name : List Char) : PropertyQuery × Bool :=
  match cutText? ['!', '='] name with
  | some (property, value) =>
    (.valued (String.ofList property) (String.ofList value), true)
  | none =>
    match cut? ':' name with
    | some (property, value) =>
      (.valued (String.ofList property) (String.ofList value), false)
    | none =>
      match cut? '=' name with
      | some (property, value) =>
        (.valued (String.ofList property) (String.ofList value), false)
      | none => (.named (String.ofList name), false)

/-- Read a property class; the reader stands at its letter. -/
def propertyClass? (negated : Bool) (reader : Reader) : Option (Tree × Reader) :=
  let inner := reader.advance
  match inner.rest with
  | [] => none
  | '\x7b' :: _ => do
    let (name, last) ← bracedName? (inner.rest.length + 1) [] inner.advance
    let (query, opposite) := propertyQuery name
    some (.characters (.property query (negated != opposite)), last)
  | character :: _ =>
    if character = '\\' then
      none
    else
      some (.characters (.property (.named (String.singleton character)) negated),
        inner.advance)

/-- A letter or a dash, as in the names of places at words. -/
def isPlaceCharacter (character : Char) : Bool :=
  character.isAlpha || character == '-'

/-- Read the name of a place at a word; `fuel` bounds its length. -/
def placeName : Nat → List Char → Reader → List Char × Reader
  | 0, name, reader => (name.reverse, reader)
  | fuel + 1, name, reader =>
    match reader.rest with
    | [] => (name.reverse, reader)
    | character :: _ =>
      if isPlaceCharacter character then
        placeName fuel (character :: name) reader.advance
      else
        (name.reverse, reader)

/-- The place at a word with a name. -/
def place? (name : List Char) : Option Assertion :=
  if name = "start".toList then some .wordStart
  else if name = "end".toList then some .wordEnd
  else if name = "start-half".toList then some .wordStartHalf
  else if name = "end-half".toList then some .wordEndHalf
  else none

/-- Read what follows the sign of a word boundary.  A brace after it begins
the name of a place if a letter or dash follows, else the bounds of a
repetition. -/
def wordBoundary? (reader : Reader) : Option (Tree × Reader) :=
  match reader.rest with
  | '\x7b' :: _ =>
    let inner := reader.advance
    match inner.rest with
    | [] => none
    | character :: _ =>
      if isPlaceCharacter character then
        let (name, last) := placeName inner.rest.length [] inner
        match last.rest with
        | '\x7d' :: rest =>
          (place? name).map fun kind =>
            (.assertion kind, { last with rest := rest })
        | _ => none
      else
        some (.assertion .wordBoundary, reader)
  | _ => some (.assertion .wordBoundary, reader)

/-- The character or place that a single letter after a backslash denotes. -/
def escapeLetter? : Char → Option Tree
  | 'a' => some (.literal '\x07' false)
  | 'f' => some (.literal '\x0c' false)
  | 't' => some (.literal '\t' false)
  | 'n' => some (.literal '\n' false)
  | 'r' => some (.literal '\r' false)
  | 'v' => some (.literal '\x0b' false)
  | 'A' => some (.assertion .textStart)
  | 'z' => some (.assertion .textEnd)
  | 'B' => some (.assertion .notWordBoundary)
  | '<' => some (.assertion .wordStart)
  | '>' => some (.assertion .wordEnd)
  | _ => none

/-- The short class of a letter, and whether its opposite is meant. -/
def shortClass? : Char → Option (ShortClass × Bool)
  | 'd' => some (.digit, false)
  | 'D' => some (.digit, true)
  | 's' => some (.space, false)
  | 'S' => some (.space, true)
  | 'w' => some (.word, false)
  | 'W' => some (.word, true)
  | _ => none

/-- Read an escape; the reader stands at the backslash. -/
def escape? (reader : Reader) : Option (Tree × Reader) :=
  let inner := reader.step
  match inner.rest with
  | [] => none
  | 'x' :: _ => hexCharacter? 2 inner
  | 'u' :: _ => hexCharacter? 4 inner
  | 'U' :: _ => hexCharacter? 8 inner
  | 'p' :: _ => propertyClass? false inner
  | 'P' :: _ => propertyClass? true inner
  | 'b' :: _ => wordBoundary? inner.step
  | character :: _ =>
    match shortClass? character with
    | some (kind, negated) => some (.characters (.short kind negated), inner.step)
    | none =>
      if isEscapable character then
        some (.literal character false, inner.step)
      else
        (escapeLetter? character).map fun tree => (tree, inner.step)

/-- Read decimal digits; `fuel` bounds their count. -/
def digits : Nat → List Char → Reader → List Char × Reader
  | 0, found, reader => (found.reverse, reader)
  | fuel + 1, found, reader =>
    match reader.rest with
    | [] => (found.reverse, reader)
    | character :: _ =>
      if isDigit character then
        digits fuel (character :: found) reader.advance
      else
        (found.reverse, reader)

/-- Drop blanks, also where they have a meaning elsewhere. -/
def dropBlanks (reader : Reader) : Reader :=
  { reader with rest := reader.rest.dropWhile isBlank }

/-- Read a bound with blanks around it; no digits at all give `none` inside. -/
def bound? (reader : Reader) : Option (Option Nat × Reader) :=
  let start := dropBlanks reader
  let (found, last) := digits start.rest.length [] start
  let last := (dropBlanks last).settle
  match decimal? found with
  | none => some (none, last)
  | some value => if value < 0x100000000 then some (some value, last) else none

/-- Read the bounds of a repetition up to the closing brace; the reader stands
at the opening one. -/
def bounds? (reader : Reader) : Option (Nat × Option Nat × Reader) := do
  let inner := reader.advance
  let (first, inner) ← bound? inner
  let least ← first
  match inner.rest with
  | '\x7d' :: _ => some (least, some least, inner)
  | ',' :: _ =>
    let inner := inner.advance
    match inner.rest with
    | '\x7d' :: _ => some (least, none, inner)
    | [] => none
    | _ =>
      let (second, last) ← bound? inner
      let most ← second
      match last.rest with
      | '\x7d' :: _ =>
        if least ≤ most then some (least, some most, last) else none
      | _ => none
  | _ => none

end DocQuery.Pattern
