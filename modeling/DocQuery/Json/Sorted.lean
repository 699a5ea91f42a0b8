import DocQuery.Json.Extended
import DocQuery.Json.Parser

/-!
# Reading documents from sorted objects

Here every object of a JSON text is first put in order: its members are sorted
by name and of repeated names the last one counts.  Objects below the top that
have one of the names for a kind of value must be written exactly in that form.
-/

namespace DocQuery.Json

/-- Put a member into a list sorted by name. -/
def putMember (name : String) (value : Json) :
    List (String × Json) → List (String × Json)
  | [] => [(name, value)]
  | (known, old) :: rest =>
    if known = name then (name, value) :: rest
    else if known < name then (known, old) :: putMember name value rest
    else (name, value) :: (known, old) :: rest

mutual

/-- Put all objects of a value in order. -/
def inOrder : Json → Json
  | .array items => .array (itemsInOrder items)
  | .object members => .object (membersInOrder [] members)
  | other => other

/-- Put all objects of the items in order. -/
def itemsInOrder : List Json → List Json
  | [] => []
  | item :: rest => item.inOrder :: itemsInOrder rest

/-- Put members one after the other into a sorted list. -/
def membersInOrder (sorted : List (String × Json)) :
    List (String × Json) → List (String × Json)
  | [] => sorted
  | (name, value) :: rest =>
    membersInOrder (putMember name value.inOrder sorted) rest

end

/-- A number as a value: an integer of the narrowest kind, or a double. -/
def numberValue? : Json → Option Value
  | .natural value =>
    if value < 0x80000000 then some (.int32 (Int32.ofInt value))
    else if value < 0x8000000000000000 then some (.int64 (Int64.ofInt value))
    else some (.double (.ofInt value))
  | .negative value =>
    if Number.inInt32Range value then some (.int32 (Int32.ofInt value))
    else some (.int64 (Int64.ofInt value))
  | .real value => some (.double value)
  | _ => none

/-- Read a kind of value that is written as an object with one member. -/
def single? (read : Json → Option Value) (name : String)
    (members : List (String × Json)) : Option Value :=
  match members with
  | [(known, body)] => if known = name then read body else none
  | _ => none

/-- The names for kinds of value written with one member, in the order in
which they are looked for before and after program texts. -/
def singleReaders : List (String × (Json → Option Value)) :=
  [("$oid", fun body => (objectId? body).map .objectId),
    ("$symbol", fun body => body.text?.map .symbol),
    ("$regularExpression", regex?),
    ("$numberInt", int32?),
    ("$numberLong", fun body => (int64Text? body).map .int64),
    ("$numberDouble", double?),
    ("$numberDecimal", decimal?),
    ("$binary", binary?),
    ("$uuid", uuid?)]

/-- The names looked for after program texts. -/
def laterSingleReaders : List (String × (Json → Option Value)) :=
  [("$timestamp", timestamp?),
    ("$date", date?),
    ("$minKey", unit? .minKey),
    ("$maxKey", unit? .maxKey),
    ("$dbPointer", pointer?),
    ("$undefined", undefined?)]

/-- Read an object by the first of the names that it has; `none` outside when
it has none of them. -/
def bySingle? (readers : List (String × (Json → Option Value)))
    (members : List (String × Json)) : Option (Option Value) :=
  (readers.find? fun (name, _) => hasMember members name).map
    fun (name, read) => single? read name members

/-- Read a program text, with its names when they are converted already. -/
def code? (members : List (String × Json)) (scope : Option Document) :
    Option Value :=
  match members with
  | [(_, .string text)] => some (.code text)
  | [("$code", .string text), ("$scope", .null)] => some (.code text)
  | [("$code", .string text), ("$scope", .object _)] =>
    scope.map fun entries => .scopedCode text entries
  | _ => none

/-- Read an object with sorted members below the top, given its members as
entries, if all of them can be converted. -/
def object? (members : List (String × Json)) (entries : Option Document)
    (scope : Option Document) : Option Value :=
  match bySingle? singleReaders members with
  | some found => found
  | none =>
    if hasMember members "$code" then
      code? members scope
    else
      match bySingle? laterSingleReaders members with
      | some found => found
      | none => entries.map .document

mutual

/-- Convert a value whose objects are in order. -/
def toValue? : Json → Option Value
  | .null => some .null
  | .boolean flag => some (.boolean flag)
  | .string text => some (.string text)
  | .array items => (toValues? items).map .array
  | .object members => object? members (toEntries? members) (scope? members)
  | number => numberValue? number

/-- Convert items. -/
def toValues? : List Json → Option (List Value)
  | [] => some []
  | item :: rest => do
    let value ← item.toValue?
    let values ← toValues? rest
    some (value :: values)

/-- Convert members to entries. -/
def toEntries? : List (String × Json) → Option Document
  | [] => some []
  | (name, member) :: rest => do
    let value ← member.toValue?
    let entries ← toEntries? rest
    some ((name, value) :: entries)

/-- Convert the free names of a program text: the members of the object under
`$scope`, which is not itself read as a kind of value. -/
def scope? : List (String × Json) → Option Document
  | [] => none
  | (name, .object members) :: rest =>
    if name = "$scope" then toEntries? members else scope? rest
  | _ :: rest => scope? rest

end

/-- Why a text is no document. -/
inductive ReadError where
  /-- The text is not JSON. -/
  | notJson
  /-- The text is JSON, but no object. -/
  | notObject
  /-- An object names a kind of value and is not written in its form. -/
  | notConvertible
  deriving DecidableEq, Repr

/-- Read a JSON text that is an object as a document sorted by name. -/
def readDocument (text : String) : Except ReadError Document :=
  match parse? text with
  | none => .error .notJson
  | some json =>
    match json.inOrder with
    | .object members =>
      match toEntries? members with
      | some entries => .ok entries
      | none => .error .notConvertible
    | _ => .error .notObject

end DocQuery.Json
