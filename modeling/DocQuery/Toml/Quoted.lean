import DocQuery.Text.Digits
import DocQuery.Text.Pieces

/-!
# Quoted texts of TOML

A text stands between double quotes, where a backslash begins an escape, or
between single quotes, where it does not.  Three quotes at either end let the
text go over several lines.
-/

namespace DocQuery.Toml

open Text

/-- A character that may stand in a line of text or in a comment. -/
def isPlain (character : Char) : Bool :=
  character == '\t' ||
    (32 ≤ character.toNat && character.toNat != 127)

/-- The rest after a line break. -/
def newline? : List Char → Option (List Char)
  | '\n' :: rest => some rest
  | '\r' :: '\n' :: rest => some rest
  | _ => none

/-- Drop blanks of a line. -/
def dropBlanks (characters : List Char) : List Char :=
  characters.dropWhile fun character => character == ' ' || character == '\t'

/-- Drop blanks and line breaks. -/
def dropSpace : List Char → List Char
  | ' ' :: rest => dropSpace rest
  | '\t' :: rest => dropSpace rest
  | '\n' :: rest => dropSpace rest
  | '\r' :: '\n' :: rest => dropSpace rest
  | characters => characters

/-- The character with a code of `count` hexadecimal digits. -/
def codedCharacter? (count : Nat) (characters : List Char) :
    Option (Char × List Char) := do
  let digits := characters.take count
  let code ← hexadecimal? digits
  if digits.length = count ∧ code.isValidChar then
    some (Char.ofNat code, characters.drop count)
  else
    none

/-- Read an escape after its backslash. -/
def escape? : List Char → Option (Char × List Char)
  | 'b' :: rest => some ('\x08', rest)
  | 't' :: rest => some ('\t', rest)
  | 'n' :: rest => some ('\n', rest)
  | 'f' :: rest => some ('\x0c', rest)
  | 'r' :: rest => some ('\r', rest)
  | 'e' :: rest => some ('\x1b', rest)
  | '"' :: rest => some ('"', rest)
  | '\\' :: rest => some ('\\', rest)
  | 'x' :: rest => codedCharacter? 2 rest
  | 'u' :: rest => codedCharacter? 4 rest
  | 'U' :: rest => codedCharacter? 8 rest
  | _ => none

/-- Read a text of one line after its opening quote; `read` holds the
characters so far, last one first. -/
def oneLine? (quote : Char) : Nat → List Char → List Char →
    Option (String × List Char)
  | 0, _, _ => none
  | _ + 1, _, [] => none
  | fuel + 1, read, character :: rest =>
    if character = quote then
      some (String.ofList read.reverse, rest)
    else if character = '\\' ∧ quote = '"' then
      match escape? rest with
      | some (escaped, last) => oneLine? quote fuel (escaped :: read) last
      | none => none
    else if isPlain character then
      oneLine? quote fuel (character :: read) rest
    else
      none

/-- The rest after a backslash that ends a line: the next character that is
neither blank nor a line break. -/
def continued? (characters : List Char) : Option (List Char) :=
  (newline? (dropBlanks characters)).map dropSpace

/-- Read a text of several lines after its opening quotes.  Up to two quotes
may stand before the closing ones, and line breaks are kept as written. -/
def manyLines? (quote : Char) : Nat → List Char → List Char →
    Option (String × List Char)
  | 0, _, _ => none
  | _ + 1, _, [] => none
  | fuel + 1, read, character :: rest =>
    if character = quote then
      let quotes := (character :: rest).takeWhile (· == quote)
      let others := (character :: rest).dropWhile (· == quote)
      if quotes.length < 3 then
        manyLines? quote fuel (quotes ++ read) others
      else
        let inside := min 2 (quotes.length - 3)
        some (String.ofList ((quotes.take inside ++ read).reverse),
          quotes.drop (inside + 3) ++ others)
    else if character = '\\' ∧ quote = '"' then
      match continued? rest with
      | some last => manyLines? quote fuel read last
      | none =>
        match escape? rest with
        | some (escaped, last) => manyLines? quote fuel (escaped :: read) last
        | none => none
    else if isPlain character ∨ character = '\n' then
      manyLines? quote fuel (character :: read) rest
    else
      match character, rest with
      | '\r', '\n' :: last =>
        manyLines? quote fuel ('\n' :: '\r' :: read) last
      | _, _ => none

/-- Read a text of one line with its quotes. -/
def quotedLine? : List Char → Option (String × List Char)
  | '"' :: rest => oneLine? '"' (rest.length + 1) [] rest
  | '\'' :: rest => oneLine? '\'' (rest.length + 1) [] rest
  | _ => none

/-- Drop one line break. -/
def dropNewline (characters : List Char) : List Char :=
  (newline? characters).getD characters

/-- Read a text with its quotes. -/
def quoted? : List Char → Option (String × List Char)
  | '"' :: '"' :: '"' :: rest =>
    manyLines? '"' (rest.length + 1) [] (dropNewline rest)
  | '\'' :: '\'' :: '\'' :: rest =>
    manyLines? '\'' (rest.length + 1) [] (dropNewline rest)
  | characters => quotedLine? characters

end DocQuery.Toml
