import DocQuery.Text.Digits

/-!
# Strings of JSON texts

What stands between two quotes is a sequence of code points, written as
characters or as escapes.  Two escapes in a row can give the halves of a
surrogate pair, which are joined.  A half that stands alone, or a control
character that is not escaped, makes the sequence no text; its bytes are known
all the same.
-/

namespace DocQuery.Json

open Text

/-- The content of a string as it is written. -/
structure Quoted where
  /-- The code points; among them can be halves of surrogate pairs. -/
  codes : List Nat
  /-- A control character stands there that is not escaped. -/
  hasControl : Bool
  deriving Inhabited

/-- The first half of a surrogate pair. -/
def isLeading (code : Nat) : Bool := 0xD800 ≤ code && code < 0xDC00

/-- The second half of a surrogate pair. -/
def isTrailing (code : Nat) : Bool := 0xDC00 ≤ code && code < 0xE000

/-- The code point of a surrogate pair. -/
def joinPair (leading trailing : Nat) : Nat :=
  0x10000 + (leading - 0xD800) * 0x400 + (trailing - 0xDC00)

/-- The bytes of a code point; half of a surrogate pair has three. -/
def bytesOfCode (code : Nat) : List Nat :=
  let later (shift : Nat) := 0x80 + code >>> shift % 0x40
  if code < 0x80 then
    [code]
  else if code < 0x800 then
    [0xC0 + code >>> 6, later 0]
  else if code < 0x10000 then
    [0xE0 + code >>> 12, later 6, later 0]
  else
    [0xF0 + code >>> 18, later 12, later 6, later 0]

namespace Quoted

/-- The text of a string that holds nothing else. -/
def text? (quoted : Quoted) : Option String :=
  if quoted.hasControl ||
      quoted.codes.any (fun code => isLeading code || isTrailing code) then
    none
  else
    some (String.ofList (quoted.codes.map Char.ofNat))

/-- The bytes of a string. -/
def bytes (quoted : Quoted) : List Nat := quoted.codes.flatMap bytesOfCode

end Quoted

/-- Put a code point before those read so far, which stand last one first; the
second half of a surrogate pair is joined with the first. -/
def pushCode (code : Nat) (read : List Nat) : List Nat :=
  match read with
  | [] => [code]
  | last :: before =>
    if isLeading last && isTrailing code then
      joinPair last code :: before
    else
      code :: last :: before

/-- Anything but the second half of a surrogate pair stands for itself. -/
theorem pushCode_of_not_trailing {code : Nat} (read : List Nat)
    (whole : isTrailing code = false) : pushCode code read = code :: read := by
  cases read with
  | nil => rfl
  | cons last before => simp [pushCode, whole]

/-- The character of a one-letter escape. -/
def escapeLetter? : Char → Option Char
  | '"' => some '"'
  | '\\' => some '\\'
  | '/' => some '/'
  | 'b' => some '\x08'
  | 'f' => some '\x0c'
  | 'n' => some '\n'
  | 'r' => some '\r'
  | 't' => some '\t'
  | _ => none

/-- Read a string after its opening quote; `read` holds the code points so
far, last one first. -/
def quotedFrom? (hasControl : Bool) (read : List Nat) :
    List Char → Option (Quoted × List Char)
  | [] => none
  | '"' :: rest => some (⟨read.reverse, hasControl⟩, rest)
  | '\\' :: 'u' :: a :: b :: c :: d :: rest =>
    match hexadecimal? [a, b, c, d] with
    | none => none
    | some code => quotedFrom? hasControl (pushCode code read) rest
  | '\\' :: letter :: rest =>
    match escapeLetter? letter with
    | none => none
    | some character =>
      quotedFrom? hasControl (character.toNat :: read) rest
  | character :: rest =>
    quotedFrom? (hasControl || character.toNat < 0x20)
      (character.toNat :: read) rest

/-- Read a string after its opening quote. -/
def quoted? (characters : List Char) : Option (Quoted × List Char) :=
  quotedFrom? false [] characters

example : (quoted? "\\ud83d\\ude00\"".toList).bind
    (·.1.text?) = some "😀" := by decide +kernel
example : (quoted? "\\udc00x\"".toList).map (·.1.bytes) =
    some [0xED, 0xB0, 0x80, 0x78] := by decide +kernel

end DocQuery.Json
