import DocQuery.Json.Number

/-!
# Reading JSON

A JSON text is one value with blanks around it.  Arrays and objects are read
127 levels deep; what stands deeper must be well formed too, but is only passed
over.  The readers take a bound on the number of steps: every step reads at
least one character, so one or two more than the characters left are enough.
-/

namespace DocQuery.Json

open Text

/-- The characters that may stand between the parts of a JSON text. -/
def isFiller (character : Char) : Bool :=
  character == ' ' || character == '\n' || character == '\t' ||
    character == '\r'

/-- Drop what may stand between parts. -/
def dropFiller (characters : List Char) : List Char :=
  characters.dropWhile isFiller

/-- Read a value that is no array and no object. -/
def scalar? : List Char → Option (Json × List Char)
  | 'n' :: 'u' :: 'l' :: 'l' :: rest => some (.null, rest)
  | 't' :: 'r' :: 'u' :: 'e' :: rest => some (.boolean true, rest)
  | 'f' :: 'a' :: 'l' :: 's' :: 'e' :: rest => some (.boolean false, rest)
  | '"' :: rest =>
    (quoted? rest).map fun (quoted, last) => (ofQuoted quoted, last)
  | '-' :: rest => number? true rest
  | rest => number? false rest

/-- Read the name of a member, after its opening quote, and the colon.  The
name is `none` when it is no text; a control character that is not escaped is
never allowed in it. -/
def name? (characters : List Char) : Option (Option String × List Char) :=
  match quoted? characters with
  | none => none
  | some (quoted, rest) =>
    match dropFiller rest with
    | ':' :: last =>
      if quoted.hasControl then none else some (quoted.text?, last)
    | _ => none

/-- What may follow where arrays and objects are passed over. -/
inductive Expected where
  /-- A value. -/
  | value
  /-- An item of an array, or a member of an object. -/
  | item
  /-- The first item or the closing bracket. -/
  | firstItem
  /-- A comma or the closing bracket. -/
  | nextItem

/-- Pass over the rest of arrays and objects with these closing brackets,
innermost first. -/
def pass? : Nat → Expected → List Char → List Char → Option (List Char)
  | 0, _, _, _ => none
  | fuel + 1, expected, closings, characters =>
    match expected, closings, dropFiller characters with
    | _, [], _ => some characters
    | .value, _, '[' :: rest => pass? fuel .firstItem (']' :: closings) rest
    | .value, _, '\x7b' :: rest =>
      pass? fuel .firstItem ('\x7d' :: closings) rest
    | .value, _, rest =>
      match scalar? rest with
      | none => none
      | some (value, rest) =>
        if value.canIgnore then pass? fuel .nextItem closings rest else none
    | .item, closing :: _, rest =>
      if closing = ']' then
        pass? fuel .value closings rest
      else
        match rest with
        | '"' :: rest =>
          match name? rest with
          | none => none
          | some (_, rest) => pass? fuel .value closings rest
        | _ => none
    | .firstItem, closing :: outer, next :: rest =>
      if next = closing then pass? fuel .nextItem outer rest
      else pass? fuel .item closings (next :: rest)
    | .nextItem, closing :: outer, next :: rest =>
      if next = closing then pass? fuel .nextItem outer rest
      else if next = ',' then pass? fuel .item closings rest
      else none
    | _, _, [] => none

/-- How deep arrays and objects are read. -/
def maxDepth : Nat := 127

mutual

/-- Read a value; `depth` more levels are read. -/
def value? : Nat → Nat → List Char → Option (Json × List Char)
  | 0, _, _ => none
  | fuel + 1, depth, characters =>
    match dropFiller characters with
    | '[' :: rest =>
      match depth with
      | 0 =>
        (pass? (3 * rest.length + 3) .firstItem [']'] rest).map fun last =>
          (.tooDeep, last)
      | depth + 1 =>
        match dropFiller rest with
        | ']' :: last => some (.array [], last)
        | _ => items? fuel depth [] rest
    | '\x7b' :: rest =>
      match depth with
      | 0 =>
        (pass? (3 * rest.length + 3) .firstItem ['\x7d'] rest).map fun last =>
          (.tooDeep, last)
      | depth + 1 =>
        match dropFiller rest with
        | '\x7d' :: last => some (.object [], last)
        | _ => members? fuel depth [] rest
    | rest => scalar? rest

/-- Read the items of an array up to its closing bracket. -/
def items? : Nat → Nat → List Json → List Char → Option (Json × List Char)
  | 0, _, _, _ => none
  | fuel + 1, depth, read, characters =>
    match value? fuel depth characters with
    | none => none
    | some (item, rest) =>
      match dropFiller rest with
      | ',' :: others => items? fuel depth (item :: read) others
      | ']' :: last => some (.array (item :: read).reverse, last)
      | _ => none

/-- Read the members of an object up to its closing brace. -/
def members? : Nat → Nat → List (Option String × Json) → List Char →
    Option (Json × List Char)
  | 0, _, _, _ => none
  | fuel + 1, depth, read, characters =>
    match dropFiller characters with
    | '"' :: rest =>
      match name? rest with
      | none => none
      | some (name, rest) =>
        match value? fuel depth rest with
        | none => none
        | some (value, rest) =>
          match dropFiller rest with
          | ',' :: others => members? fuel depth ((name, value) :: read) others
          | '\x7d' :: last =>
            some (ofMembers ((name, value) :: read).reverse, last)
          | _ => none
    | _ => none

end

/-- Read a whole text that is well formed. -/
def parseAny? (text : String) : Option Json := do
  let characters := text.toList
  let (value, rest) ← value? (2 * characters.length + 2) maxDepth characters
  if dropFiller rest = [] then some value else none

/-- Read a whole text all parts of which have a value. -/
def parse? (text : String) : Option Json :=
  (parseAny? text).filter isSound

end DocQuery.Json
