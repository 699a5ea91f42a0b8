import DocQuery.Calendar
import DocQuery.Number.Reading
import DocQuery.Text.Pieces
import DocQuery.Toml.Tree

/-!
# Unquoted values of TOML

Truth values, numbers, dates and times.  Each is told from the others by the
characters up to the next blank or mark, except that a blank may stand between
a date and a time.
-/

namespace DocQuery.Toml

open Text Calendar

/-- A character of an unquoted value. -/
def isScalarCharacter (character : Char) : Bool :=
  character.isAlphanum || character == '_' || character == '+' ||
    character == '-' || character == '.' || character == ':'

/-- The digits of a text in which each underscore stands between two digits;
there is at least one. -/
def digitGroups? (isDigit : Char → Bool) : List Char → Option (List Char)
  | [] => none
  | [digit] => if isDigit digit then some [digit] else none
  | digit :: '_' :: rest =>
    if isDigit digit then (digitGroups? isDigit rest).map (digit :: ·)
    else none
  | digit :: next :: rest =>
    if isDigit digit then
      (digitGroups? isDigit (next :: rest)).map (digit :: ·)
    else
      none

/-- The value of digits of a base. -/
def valueInBase (base : Nat) (digits : List Char) : Nat :=
  digits.foldl (fun value digit => value * base + (hexDigit? digit).getD 0) 0

/-- A digit of a base. -/
def isDigitOf (base : Nat) (character : Char) : Bool :=
  match hexDigit? character with
  | some value => decide (value < base)
  | none => false

/-- Digits of a base after the mark of the base. -/
def based? (base : Nat) (characters : List Char) : Option Nat :=
  (digitGroups? (isDigitOf base) characters).map (valueInBase base)

/-- The digits of a decimal integer without sign, which has no superfluous
zero in front. -/
def decimalDigits? (characters : List Char) : Option (List Char) := do
  let digits ← digitGroups? isDigit characters
  match digits with
  | '0' :: _ :: _ => none
  | _ => some digits

/-- The sign of a number, negative or not, if there is one, and the rest. -/
def signed (characters : List Char) : Option Bool × List Char :=
  match characters with
  | '-' :: rest => (some true, rest)
  | '+' :: rest => (some false, rest)
  | _ => (none, characters)

/-- The digits of an integer or of the whole part of a float.  Between a sign
and the digits an underscore may stand, and then any zeros. -/
def wholeDigits? (sign : Option Bool) (characters : List Char) :
    Option (List Char) :=
  match sign, characters with
  | some _, '_' :: digits => digitGroups? isDigit digits
  | _, _ => decimalDigits? characters

/-- An integer in decimal, or without sign in another base, of at most 128
bits. -/
def integer? (characters : List Char) : Option Int := do
  let value : Int ← match characters with
    | '0' :: 'x' :: rest => based? 16 rest
    | '0' :: 'o' :: rest => based? 8 rest
    | '0' :: 'b' :: rest => based? 2 rest
    | _ => do
      let (sign, rest) := signed characters
      let digits ← wholeDigits? sign rest
      let magnitude := valueInBase 10 digits
      some (if sign == some true then -(magnitude : Int) else magnitude)
  if -0x80000000000000000000000000000000 ≤ value ∧
      value < 0x100000000000000000000000000000000 then
    some value
  else
    none

/-- The digits of an exponent after its mark, with their sign. -/
def exponentDigits? (characters : List Char) : Option (List Char) :=
  match characters with
  | '-' :: rest => (digitGroups? isDigit rest).map ('-' :: ·)
  | '+' :: rest => digitGroups? isDigit rest
  | _ => digitGroups? isDigit characters

/-- The decimal text of a float without its underscores, after its sign: a
whole part, and places after a point or an exponent or both. -/
def floatText? (sign : Option Bool) (characters : List Char) :
    Option (List Char) := do
  let isMark := fun character => character == 'e' || character == 'E'
  let mantissa := characters.takeWhile fun character => !isMark character
  let exponent ← match characters.dropWhile fun character =>
      !isMark character with
    | [] => some []
    | _ :: digits => (exponentDigits? digits).map ('e' :: ·)
  match cut? '.' mantissa with
  | some (left, right) => do
    let whole ← wholeDigits? sign left
    let places ← digitGroups? isDigit right
    some (whole ++ '.' :: places ++ exponent)
  | none =>
    if exponent.isEmpty then
      none
    else do
      let whole ← wholeDigits? sign mantissa
      some (whole ++ exponent)

/-- A float, which must not be too large to be represented. -/
def float? (characters : List Char) : Option Binary64 :=
  let (sign, rest) := signed characters
  let negative := sign == some true
  if rest = "inf".toList then
    some (.infinity negative)
  else if rest = "nan".toList then
    some (.quietNaN negative)
  else do
    let digits ← floatText? sign rest
    let number ← Number.unsigned? negative digits
    if number.isFinite then some number else none

/-- Read a date. -/
def date? (characters : List Char) : Option (List Char) := do
  let (year, rest) ← fixedDigits? 4 characters
  let rest ← mark? '-' rest
  let (month, rest) ← fixedDigits? 2 rest
  let rest ← mark? '-' rest
  let (day, rest) ← fixedDigits? 2 rest
  if (Date.mk year month day).isValid then some rest else none

/-- Read the seconds of a time of day, which may be left out. -/
def seconds? : List Char → Option (List Char)
  | ':' :: rest => do
    let (second, rest) ← fixedDigits? 2 rest
    let (_, rest) ← fraction? rest
    if second ≤ 60 then some rest else none
  | rest => some rest

/-- Read a time of day. -/
def time? (characters : List Char) : Option (List Char) := do
  let (hour, rest) ← fixedDigits? 2 characters
  let rest ← mark? ':' rest
  let (minute, rest) ← fixedDigits? 2 rest
  if hour ≤ 23 ∧ minute ≤ 59 then seconds? rest else none

/-- An offset from universal time of at most one day. -/
def isOffset (characters : List Char) : Bool :=
  (offset? characters).any fun seconds => decide (seconds.natAbs ≤ 86400)

/-- A date, a time of day, or both, with or without an offset from universal
time. -/
def isMoment (characters : List Char) : Bool :=
  match date? characters with
  | some [] => true
  | some (separator :: rest) =>
    (separator == 'T' || separator == 't' || separator == ' ') &&
      match time? rest with
      | some [] => true
      | some last => isOffset last
      | none => false
  | none => time? characters == some []

/-- The value that characters spell. -/
def ofCharacters? (characters : List Char) : Option Toml :=
  if characters = "true".toList then some (.boolean true)
  else if characters = "false".toList then some (.boolean false)
  else if isMoment characters then some (.moment (String.ofList characters))
  else
    match integer? characters with
    | some value => some (.integer value)
    | none => (float? characters).map .float

/-- The characters of an unquoted value: up to the first that cannot be one,
and beyond a blank between a date and a time. -/
def spanScalar (characters : List Char) : List Char × List Char :=
  let token := characters.takeWhile isScalarCharacter
  let rest := characters.dropWhile isScalarCharacter
  match rest with
  | ' ' :: first :: others =>
    if date? token == some [] && isDigit first then
      (token ++ ' ' :: (first :: others).takeWhile isScalarCharacter,
        (first :: others).dropWhile isScalarCharacter)
    else
      (token, rest)
  | _ => (token, rest)

/-- Read an unquoted value. -/
def scalar? (characters : List Char) : Option (Toml × List Char) :=
  let (token, rest) := spanScalar characters
  (ofCharacters? token).map fun value => (value, rest)

end DocQuery.Toml
