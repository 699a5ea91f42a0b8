import DocQuery.Json.Extended
import DocQuery.Json.Parser

/-!
# Reading documents in the order of the text

Here the members of an object are taken as they come.  As soon as a name for a
kind of value is met, the object is a value of that kind: what came before is
dropped, and nothing may follow.
-/

namespace DocQuery.Json

/-- A number as a value.  An integer that is not negative takes the narrowest
kind; a negative one always has 64 bits. -/
def directNumber? : Json → Option Value
  | .natural value =>
    if value < 0x80000000 then some (.int32 (Int32.ofInt value))
    else if value < 0x8000000000000000 then some (.int64 (Int64.ofInt value))
    else none
  | .negative value => some (.int64 (Int64.ofInt value))
  | .real value => some (.double value)
  | _ => none

/-- The bytes of a string, or of an array of numbers below 256. -/
def bytes? : Json → Option (List Nat)
  | .string text => some (text.toUTF8.toList.map UInt8.toNat)
  | .improper quoted => some quoted.bytes
  | .array items => items.mapM (naturalBelow? 256)
  | _ => none

/-- A decimal by its bytes. -/
def decimalOfBytes? (json : Json) : Option Value := do
  let bytes ← bytes? json
  (Decimal128.ofBytes? bytes).map .decimal

/-- The reader of what stands under a name for a kind of value. -/
def directReader? (name : String) : Option (Json → Option Value) :=
  match name with
  | "$oid" => some fun body => (objectId? body).map .objectId
  | "$symbol" => some fun body => body.text?.map .symbol
  | "$numberInt" => some int32?
  | "$numberLong" => some fun body => (int64Text? body).map .int64
  | "$numberDouble" => some double?
  | "$numberDecimal" => some decimal?
  | "$numberDecimalBytes" => some decimalOfBytes?
  | "$binary" => some binary?
  | "$uuid" => some uuid?
  | "$timestamp" => some timestamp?
  | "$regularExpression" => some regex?
  | "$dbPointer" => some pointer?
  | "$date" => some date?
  | "$maxKey" => some (unit? .maxKey)
  | "$minKey" => some (unit? .minKey)
  | "$undefined" => some undefined?
  | _ => none

mutual

/-- Convert a value. -/
def toDirect? : Json → Option Value
  | .null => some .null
  | .boolean flag => some (.boolean flag)
  | .string text => some (.string text)
  | .array items => (toDirects? items).map .array
  | .object members => directMembers? [] members
  | number => directNumber? number

/-- Convert items. -/
def toDirects? : List Json → Option (List Value)
  | [] => some []
  | item :: rest => do
    let value ← toDirect? item
    let values ← toDirects? rest
    some (value :: values)

/-- Convert members to entries, or to the value of the first kind named. -/
def directMembers? (entries : Document) : List (String × Json) → Option Value
  | [] => some (.document entries)
  | [("$code", .string text)] => some (.code text)
  | [("$code", .string text), ("$scope", scope)] => do
    let found ← toDirect? scope
    let names ← found.asDocument?
    some (.scopedCode text names)
  | [("$scope", scope), ("$code", .string text)] => do
    let found ← toDirect? scope
    let names ← found.asDocument?
    some (.scopedCode text names)
  | (name, member) :: rest =>
    if name = "$code" ∨ name = "$scope" then
      none
    else
      match directReader? name with
      | some read =>
        match rest with
        | [] => read member
        | _ :: _ => none
      | none => do
        let value ← toDirect? member
        directMembers? (Document.insert entries name value) rest

end

/-- Convert an object that is a document. -/
def toDirectDocument? (json : Json) : Option Document := do
  let value ← match json with
    | .object members => directMembers? [] members
    | _ => none
  value.asDocument?

end DocQuery.Json
