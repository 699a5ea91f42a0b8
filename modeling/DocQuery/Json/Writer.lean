import DocQuery.Request
import DocQuery.Text.Base64

/-!
# Writing JSON

The compact JSON text of documents, requests and records.  Kinds of value that
JSON lacks are written as objects with a name that begins with a dollar sign.
-/

namespace DocQuery.Json

/-- The escape of a character in a string, if it needs one. -/
def escape (character : Char) : List Char :=
  if character = '"' then ['\\', '"']
  else if character = '\\' then ['\\', '\\']
  else if character = '\x08' then ['\\', 'b']
  else if character = '\x0c' then ['\\', 'f']
  else if character = '\n' then ['\\', 'n']
  else if character = '\r' then ['\\', 'r']
  else if character = '\t' then ['\\', 't']
  else if character.toNat < 32 then
    '\\' :: 'u' :: Text.hexDigits 4 character.toNat
  else [character]

/-- A string in quotes. -/
def writeString (text : String) : String :=
  String.ofList ('"' :: (text.toList.flatMap escape ++ ['"']))

/-- The digits of a finite double: positional from `1e-5` up to `1e16`, with a
fraction even when it is zero, and with an exponent otherwise.  Of two equally
near decimals the even one is taken. -/
def doubleDigits (number : Binary64) : List Char :=
  if number.isZero then
    "0.0".toList
  else
    let decimal := Shortest.digits .toEven number
    let digits := Layout.digitsOf decimal.digits
    let leading := Layout.leadingExponent digits decimal.exponent
    if leading < -5 ∨ 16 ≤ leading then
      Layout.mantissa digits ++ 'e' :: Layout.signed leading
    else
      let written := Layout.positional digits decimal.exponent
      if 0 ≤ decimal.exponent then written ++ ['.', '0'] else written

/-- A double; what is not finite is written as `null`. -/
def writeDouble (number : Binary64) : String :=
  if number.isFinite then
    let digits := doubleDigits number
    String.ofList (if number.negative then '-' :: digits else digits)
  else
    "null"

/-- An integer. -/
def writeInteger (value : Int) : String := String.ofList (Layout.integer value)

/-- Members in braces. -/
def writeMembers (members : List String) : String :=
  "\x7b" ++ String.intercalate "," members ++ "\x7d"

/-- A name and what stands under it. -/
def writeMember (name value : String) : String := writeString name ++ ":" ++ value

/-- Items in brackets. -/
def writeItems (items : List String) : String :=
  "[" ++ String.intercalate "," items ++ "]"

/-- An object with one member. -/
def writeSingle (name value : String) : String :=
  writeMembers [writeMember name value]

/-- An identifier. -/
def writeId (id : ObjectId) : String :=
  writeSingle "$oid" (writeString id.toHex)

/-- Bytes: an array of numbers for the general subtype, else their base 64
text with the subtype. -/
def writeBinary (subtype : UInt8) (bytes : List UInt8) : String :=
  if subtype = 0 then
    writeItems (bytes.map fun byte => writeInteger byte.toNat)
  else
    writeSingle "$binary" (writeMembers
      [writeMember "base64"
          (writeString (String.ofList (Text.Base64.encode bytes))),
        writeMember "subType"
          (writeString (String.ofList (Text.hexOfBytes [subtype])))])

mutual

/-- The JSON text of a value. -/
def writeValue : Value → String
  | .null => "null"
  | .undefined => writeSingle "$undefined" "true"
  | .minKey => writeSingle "$minKey" "1"
  | .maxKey => writeSingle "$maxKey" "1"
  | .boolean flag => if flag then "true" else "false"
  | .int32 number => writeInteger number.toInt
  | .int64 number => writeInteger number.toInt
  | .double number => writeDouble number
  | .decimal number =>
    writeSingle "$numberDecimal" (writeString number.toText)
  | .string text => writeString text
  | .symbol text => writeSingle "$symbol" (writeString text)
  | .code text => writeSingle "$code" (writeString text)
  | .scopedCode text scope =>
    writeMembers [writeMember "$code" (writeString text),
      writeMember "$scope" (writeMembers (writeEntries scope))]
  | .objectId id => writeId id
  | .dateTime milliseconds =>
    writeSingle "$date" (writeSingle "$numberLong"
      (writeString (writeInteger milliseconds.toInt)))
  | .timestamp seconds increment =>
    writeSingle "$timestamp" (writeMembers
      [writeMember "t" (writeInteger seconds.toNat),
        writeMember "i" (writeInteger increment.toNat)])
  | .binary subtype bytes => writeBinary subtype bytes
  | .regex pattern options =>
    writeSingle "$regularExpression" (writeMembers
      [writeMember "pattern" (writeString pattern),
        writeMember "options" (writeString options)])
  | .pointer target id =>
    writeSingle "$dbPointer" (writeMembers
      [writeMember "$ref" (writeString target), writeMember "$id" (writeId id)])
  | .array items => writeItems (writeValues items)
  | .document entries => writeMembers (writeEntries entries)

/-- The JSON texts of items. -/
def writeValues : List Value → List String
  | [] => []
  | item :: rest => writeValue item :: writeValues rest

/-- The members for entries. -/
def writeEntries : List (String × Value) → List String
  | [] => []
  | (name, value) :: rest =>
    writeMember name (writeValue value) :: writeEntries rest

end

/-- The JSON text of a document. -/
def writeDocument (document : Document) : String :=
  writeMembers (writeEntries document)

/-- The JSON text of an action that may be missing. -/
def writeAction : Option Action → String
  | some action => writeString action.name
  | none => "null"

end DocQuery.Json

namespace DocQuery

/-- The JSON text of a request. -/
def Request.toJson (request : Request) : String :=
  Json.writeMembers
    [Json.writeMember "filter" (Json.writeDocument request.filter),
      Json.writeMember "update" (Json.writeDocument request.update),
      Json.writeMember "projection" (Json.writeDocument request.projection),
      Json.writeMember "sort" (Json.writeDocument request.sort),
      Json.writeMember "limit" (Json.writeInteger request.limit),
      Json.writeMember "offset" (Json.writeInteger request.offset)]

/-- The JSON text of a record. -/
def QueryLog.toJson (log : QueryLog) : String :=
  Json.writeMembers
    [Json.writeMember "collection" (Json.writeString log.collection),
      Json.writeMember "action" (Json.writeAction log.action),
      Json.writeMember "filter" (Json.writeDocument log.filter),
      Json.writeMember "update" (Json.writeDocument log.update),
      Json.writeMember "projection" (Json.writeDocument log.projection),
      Json.writeMember "limit" (Json.writeInteger log.limit),
      Json.writeMember "offset" (Json.writeInteger log.offset),
      Json.writeMember "sort" (Json.writeDocument log.sort)]

end DocQuery
