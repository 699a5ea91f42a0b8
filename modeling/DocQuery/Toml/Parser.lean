import DocQuery.Toml.Quoted
import DocQuery.Toml.Scalar

/-!
# Reading TOML

A TOML text is a sequence of lines, each with a key and its value or with the
header of a table.  The readers of values take a bound on the number of steps:
every step reads at least one character.
-/

namespace DocQuery.Toml

/-- A character of a key without quotes. -/
def isKeyCharacter (character : Char) : Bool :=
  character.isAlphanum || character == '_' || character == '-'

/-- Read one part of a key. -/
def keyPart? (characters : List Char) : Option (String × List Char) :=
  match characters with
  | '"' :: _ | '\'' :: _ => quotedLine? characters
  | _ =>
    match characters.takeWhile isKeyCharacter with
    | [] => none
    | part =>
      some (String.ofList part, characters.dropWhile isKeyCharacter)

/-- The greatest number of parts of a key, and how deep arrays and inline
tables may nest. -/
def maxDepth : Nat := 80

/-- Read the parts of a key, which have points between them: those on the way,
and the last one.  `parts` more of them may be read. -/
def keyParts? : Nat → List Char → Option ((List String × String) × List Char)
  | 0, _ => none
  | parts + 1, characters => do
    let (part, rest) ← keyPart? characters
    match dropBlanks rest with
    | '.' :: others => do
      let ((path, last), rest) ← keyParts? parts (dropBlanks others)
      some ((part :: path, last), rest)
    | rest => some (([], part), rest)

/-- Read a key. -/
def key? (characters : List Char) :
    Option ((List String × String) × List Char) :=
  keyParts? maxDepth characters

/-- Drop a comment. -/
def dropComment : List Char → List Char
  | '#' :: rest => rest.dropWhile isPlain
  | characters => characters

/-- Drop blanks, line breaks and comments. -/
def dropLines : Nat → List Char → List Char
  | 0, characters => characters
  | fuel + 1, characters =>
    match dropSpace characters with
    | '#' :: rest => dropLines fuel (rest.dropWhile isPlain)
    | rest => rest

/-- Drop all that may stand between the parts of an array or of an inline
table. -/
def dropFiller (characters : List Char) : List Char :=
  dropLines (characters.length + 1) characters

mutual

/-- Read a value; `depth` more levels may nest. -/
def value? : Nat → Nat → List Char → Option (Toml × List Char)
  | 0, _, _ => none
  | fuel + 1, depth, characters =>
    match characters with
    | '"' :: _ | '\'' :: _ =>
      (quoted? characters).map fun (text, rest) => (.string text, rest)
    | '[' :: rest =>
      match depth with
      | 0 => none
      | depth + 1 => items? fuel depth [] (dropFiller rest)
    | '\x7b' :: rest =>
      match depth with
      | 0 => none
      | depth + 1 => pairs? fuel depth [] (dropFiller rest)
    | _ => scalar? characters

/-- Read the items of an array up to its closing bracket; a comma may stand
after the last one. -/
def items? : Nat → Nat → List Toml → List Char → Option (Toml × List Char)
  | 0, _, _, _ => none
  | fuel + 1, depth, read, characters =>
    match characters with
    | ']' :: rest => some (.array read.reverse, rest)
    | _ =>
      match value? fuel depth characters with
      | none => none
      | some (item, rest) =>
        match dropFiller rest with
        | ',' :: others =>
          items? fuel depth (item :: read) (dropFiller others)
        | ']' :: last => some (.array (item :: read).reverse, last)
        | _ => none

/-- Read the pairs of an inline table up to its closing brace; a comma may
stand after the last one. -/
def pairs? : Nat → Nat → Entries → List Char → Option (Toml × List Char)
  | 0, _, _, _ => none
  | fuel + 1, depth, read, characters =>
    match characters with
    | '\x7d' :: rest => some (.table .inline read, rest)
    | _ =>
      match key? characters with
      | some ((path, last), '=' :: rest) =>
        match value? fuel depth (dropBlanks rest) with
        | none => none
        | some (value, rest) =>
          match assign path last value read with
          | none => none
          | some entries =>
            match dropFiller rest with
            | ',' :: others => pairs? fuel depth entries (dropFiller others)
            | '\x7d' :: final => some (.table .inline entries, final)
            | _ => none
      | _ => none

end

/-- The rest after the end of a line. -/
def lineEnd? (characters : List Char) : Option (List Char) :=
  match dropComment (dropBlanks characters) with
  | [] => some []
  | rest => newline? rest

/-- What a line says. -/
inductive Line where
  /-- Nothing. -/
  | blank
  /-- A key of the current table has a value. -/
  | pair (path : List String) (key : String) (value : Toml)
  /-- A table becomes the current one. -/
  | header (path : List String) (key : String)
  /-- Another table under a repeated header becomes the current one. -/
  | element (path : List String) (key : String)

/-- Read a line without its end. -/
def line? (characters : List Char) : Option (Line × List Char) :=
  match characters with
  | '[' :: '[' :: rest =>
    match key? (dropBlanks rest) with
    | some ((path, key), ']' :: ']' :: last) => some (.element path key, last)
    | _ => none
  | '[' :: rest =>
    match key? (dropBlanks rest) with
    | some ((path, key), ']' :: last) => some (.header path key, last)
    | _ => none
  | [] | '#' :: _ | '\n' :: _ | '\r' :: _ => some (.blank, characters)
  | _ =>
    match key? characters with
    | some ((path, key), '=' :: rest) =>
      (value? (rest.length + 1) maxDepth (dropBlanks rest)).map
        fun (value, last) => (.pair path key value, last)
    | _ => none

/-- A text that is read in part: its tables so far, and the path of the
current one. -/
structure Reading where
  root : Entries
  current : List String

/-- Take a line in. -/
def Reading.take? (reading : Reading) : Line → Option Reading
  | .blank => some reading
  | .pair path key value =>
    (enter reading.current (assign path key value) reading.root).map
      fun root => { reading with root := root }
  | .header path key =>
    (openTable path key reading.root).map fun root => ⟨root, path ++ [key]⟩
  | .element path key =>
    (openElement path key reading.root).map fun root => ⟨root, path ++ [key]⟩

/-- Read lines up to the end of a text. -/
def lines? : Nat → Reading → List Char → Option Reading
  | 0, _, _ => none
  | _ + 1, reading, [] => some reading
  | fuel + 1, reading, characters => do
    let (line, rest) ← line? (dropBlanks characters)
    let rest ← lineEnd? rest
    let next ← reading.take? line
    lines? fuel next rest

/-- Drop a byte order mark. -/
def dropMark : List Char → List Char
  | '\ufeff' :: rest => rest
  | characters => characters

/-- Read a TOML text. -/
def parse? (text : String) : Option Entries :=
  let characters := dropMark text.toList
  (lines? (characters.length + 1) ⟨[], []⟩ characters).map Reading.root

end DocQuery.Toml
