import DocQuery.Calendar
import DocQuery.Text.Base64
import DocQuery.Value

/-!
# Values in traces

The text of a value in a trace line.  Strings stand in quotes as they are,
doubles are written positionally, and kinds without a literal of their own are
written like calls.
-/

namespace DocQuery

namespace Value

/-- A double written positionally with the fewest digits; of two equally near
ones the upper is taken. -/
def doubleText (number : Binary64) : List Char :=
  if number.isNaN then
    "NaN".toList
  else
    let magnitude :=
      if number.isInfinite then "inf".toList
      else if number.isZero then ['0']
      else
        let decimal := Shortest.digits .upward number
        Layout.positional (Layout.digitsOf decimal.digits) decimal.exponent
    if number.negative then '-' :: magnitude else magnitude

/-- Text in quotes, as it is. -/
def quoted (text : String) : String := "\"" ++ text ++ "\""

/-- A name and the text of its value. -/
def entryText (name value : String) : String := quoted name ++ ": " ++ value

/-- Entries in braces. -/
def documentText (entries : List String) : String :=
  if entries.isEmpty then "\x7b\x7d"
  else "\x7b " ++ String.intercalate ", " entries ++ " \x7d"

/-- Items in brackets. -/
def arrayText (items : List String) : String :=
  "[" ++ String.intercalate ", " items ++ "]"

/-- The hexadecimal digits of a byte, without a zero in front. -/
def byteText (byte : UInt8) : String :=
  "0x" ++ String.ofList (Nat.toDigits 16 byte.toNat)

/-- The text of an identifier. -/
def idText (id : ObjectId) : String :=
  "ObjectId(" ++ quoted id.toHex ++ ")"

mutual

/-- The text of a value in a trace line. -/
def toText : Value → String
  | .null => "null"
  | .undefined => "undefined"
  | .minKey => "MinKey"
  | .maxKey => "MaxKey"
  | .boolean flag => if flag then "true" else "false"
  | .int32 number => String.ofList (Layout.integer number.toInt)
  | .int64 number => String.ofList (Layout.integer number.toInt)
  | .double number => String.ofList (doubleText number)
  | .decimal number => number.toText
  | .string text => quoted text
  | .symbol text => "Symbol(" ++ quoted text ++ ")"
  | .code text => text
  | .scopedCode text _ => text
  | .objectId id => idText id
  | .dateTime milliseconds =>
    "DateTime(" ++ quoted (Calendar.toText milliseconds.toInt) ++ ")"
  | .timestamp seconds increment =>
    "Timestamp(" ++ String.ofList (Layout.digitsOf seconds.toNat) ++ ", " ++
      String.ofList (Layout.digitsOf increment.toNat) ++ ")"
  | .binary subtype bytes =>
    "Binary(" ++ byteText subtype ++ ", " ++
      String.ofList (Text.Base64.encode bytes) ++ ")"
  | .regex pattern options => "/" ++ pattern ++ "/" ++ options
  | .pointer target id => "DbPointer(" ++ target ++ ", " ++ id.toHex ++ ")"
  | .array items => arrayText (toTexts items)
  | .document entries => documentText (entryTexts entries)

/-- The texts of items. -/
def toTexts : List Value → List String
  | [] => []
  | item :: rest => item.toText :: toTexts rest

/-- The texts of entries. -/
def entryTexts : List (String × Value) → List String
  | [] => []
  | (name, value) :: rest => entryText name value.toText :: entryTexts rest

end

end Value

/-- The text of a document in a trace line. -/
def Document.toText (document : Document) : String :=
  Value.documentText (Value.entryTexts document)

end DocQuery
