import DocQuery.Calendar
import DocQuery.Json.Tree
import DocQuery.Text.Base64
import DocQuery.Text.Pieces
import DocQuery.Value

/-!
# Values written as JSON objects

Kinds of value that JSON lacks are written as objects with a name that begins
with a dollar sign.  Here are the readers of what stands under such a name.  A
body with several fields is an object with exactly these fields, or an array
of their values in order.
-/

namespace DocQuery.Json

open Text

/-- A string. -/
def text? : Json → Option String
  | .string text => some text
  | _ => none

/-- The values of named fields, in order: of an object that has each of them
once and no others, or of an array of as many items. -/
def fields? (names : List String) : Json → Option (List Json)
  | .array items => if items.length = names.length then some items else none
  | .object members =>
    if members.length = names.length then
      names.mapM fun name => member? members name
    else
      none
  | _ => none

/-- A natural number below a bound. -/
def naturalBelow? (bound : Nat) : Json → Option Nat
  | .natural value => if value < bound then some value else none
  | _ => none

/-- A 64-bit integer. -/
def int64? : Json → Option Int64
  | .natural value =>
    if value < 0x8000000000000000 then some (Int64.ofInt value) else none
  | .negative value => some (Int64.ofInt value)
  | _ => none

/-- A 64-bit integer spelt in a string. -/
def int64Text? (json : Json) : Option Int64 := do
  let text ← json.text?
  Number.int64? text.toList

/-- The identifier under `$oid`. -/
def objectId? (json : Json) : Option ObjectId := do
  let text ← json.text?
  ObjectId.ofHex? text

/-- Option letters in order. -/
def sortedLetters (options : String) : String :=
  String.ofList (options.toList.mergeSort fun left right => decide (left ≤ right))

/-- No character is the null character. -/
def hasNoNull (text : String) : Bool := text.toList.all (· != '\x00')

/-- The regular expression under `$regularExpression`. -/
def regex? (json : Json) : Option Value := do
  match ← fields? ["pattern", "options"] json with
  | [.string pattern, .string options] =>
    if hasNoNull pattern && hasNoNull options then
      some (.regex pattern (sortedLetters options))
    else
      none
  | _ => none

/-- The bytes under `$binary`. -/
def binary? (json : Json) : Option Value := do
  match ← fields? ["base64", "subType"] json with
  | [.string body, .string subtype] =>
    let bytes ← Base64.decode? body.toList
    match ← bytesOfHex? subtype.toList with
    | [kind] => some (.binary kind bytes)
    | _ => none
  | _ => none

/-- The hexadecimal digits of a text with dashes after the eighth, twelfth,
sixteenth and twentieth digit. -/
def dashedHex? (characters : List Char) : Option (List Char) :=
  match pieces '-' characters with
  | [a, b, c, d, e] =>
    if a.length = 8 ∧ b.length = 4 ∧ c.length = 4 ∧ d.length = 4 ∧
        e.length = 12 then
      some (a ++ b ++ c ++ d ++ e)
    else
      none
  | _ => none

/-- The digits of a universally unique identifier: bare, with dashes, in
braces, or after `urn:uuid:` in letters of any case. -/
def uuidDigits? (characters : List Char) : Option (List Char) :=
  if characters.length = 32 then
    some characters
  else
    match characters with
    | '\x7b' :: rest =>
      if rest.getLast? = some '\x7d' then dashedHex? rest.dropLast else none
    | _ =>
      let (start, rest) := characters.splitAt 9
      if start.map Char.toLower = "urn:uuid:".toList then dashedHex? rest
      else dashedHex? characters

/-- The identifier under `$uuid`, as bytes of the fourth subtype. -/
def uuid? (json : Json) : Option Value := do
  let text ← json.text?
  let digits ← uuidDigits? text.toList
  let bytes ← bytesOfHex? digits
  some (.binary 4 bytes)

/-- The timestamp under `$timestamp`. -/
def timestamp? (json : Json) : Option Value := do
  match ← fields? ["t", "i"] json with
  | [time, increment] =>
    let time ← naturalBelow? 0x100000000 time
    let increment ← naturalBelow? 0x100000000 increment
    some (.timestamp (UInt32.ofNat time) (UInt32.ofNat increment))
  | _ => none

/-- The time under `$date`: an integer spelt under `$numberLong`, a date and
time, or an integer. -/
def date? (json : Json) : Option Value :=
  match fields? ["$numberLong"] json with
  | some [body] =>
    (int64Text? body).map .dateTime
  | _ =>
    match json with
    | .string text => (Calendar.parse? text).map fun milliseconds =>
        .dateTime (Int64.ofInt milliseconds)
    | other => (int64? other).map .dateTime

/-- The pointer under `$dbPointer`. -/
def pointer? (json : Json) : Option Value := do
  match ← fields? ["$ref", "$id"] json with
  | [.string target, body] =>
    match ← fields? ["$oid"] body with
    | [id] => (objectId? id).map fun found => .pointer target found
    | _ => none
  | _ => none

/-- A value that is always written with the number one. -/
def unit? (value : Value) (json : Json) : Option Value :=
  match json with
  | .natural 1 => some value
  | _ => none

/-- The undefined value, written with `true`. -/
def undefined? : Json → Option Value
  | .boolean true => some .undefined
  | _ => none

/-- A double spelt in a string. -/
def double? (json : Json) : Option Value := do
  let text ← json.text?
  (Number.binary64? text.toList).map .double

/-- A decimal spelt in a string. -/
def decimal? (json : Json) : Option Value := do
  let text ← json.text?
  (Decimal128.parse? text).map .decimal

/-- A 32-bit integer spelt in a string. -/
def int32? (json : Json) : Option Value := do
  let text ← json.text?
  (Number.int32? text.toList).map .int32

end DocQuery.Json
