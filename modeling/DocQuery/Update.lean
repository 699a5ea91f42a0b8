import DocQuery.Filter

/-!
# Updates

An update is a document of operators, each with a payload of paths, or a
document without operators, which takes the place of the old one but keeps its
identifier.  Operators are carried out in order on a working copy, so a failure
changes nothing.
-/

namespace DocQuery

namespace Update

/-- The entries of the payload of an operator. -/
def payload (operator : String) : Value → Except StoreError Document
  | .document entries => .ok entries
  | _ => .error (.invalidOperation (.payloadNotDocument operator))

/-- The sum of two 32-bit integers, widened when it does not fit. -/
def addInt32 (left right : Int32) : Value :=
  let sum := left.toInt + right.toInt
  if Number.inInt32Range sum then .int32 (Int32.ofInt sum)
  else .int64 (Int64.ofInt sum)

/-- The sum of a field and an increment.  Integers give an integer, held at
the ends of its range; any other numbers give a double.  A missing field
counts as zero. -/
def add (current : Option Value) (increment : Value) (field : String) :
    Except StoreError Value :=
  match current.getD (.int32 0), increment with
  | .int32 left, .int32 right => .ok (addInt32 left right)
  | .int32 left, .int64 right => .ok (.int64 (clampToInt64 (left.toInt + right.toInt)))
  | .int64 left, .int32 right => .ok (.int64 (clampToInt64 (left.toInt + right.toInt)))
  | .int64 left, .int64 right => .ok (.int64 (clampToInt64 (left.toInt + right.toInt)))
  | left, right =>
    match left.toBinary64?, right.toBinary64? with
    | some first, some second => .ok (.double (first.add second))
    | _, _ => .error (.invalidOperation (.incrementNotNumeric field))

/-- The items that a payload adds to an array: the list under `$each`, if it
is a document with that name, else the payload itself. -/
def itemsOf (payload : Value) : List Value :=
  match payload with
  | .document entries =>
    match Document.get? entries "$each" with
    | some (.array items) => items
    | some other => [other]
    | none => [payload]
  | other => [other]

/-- The array at a path; a path where reading finds nothing holds an empty
one. -/
def arrayAt (document : Document) (path : String) :
    Except StoreError (List Value) :=
  match document.getPath? path with
  | none => .ok []
  | some (.array items) => .ok items
  | some _ => .error (.invalidOperation (.fieldNotArray path))

/-- Append the items that agree with no item before them. -/
def addMissing (items : List Value) (additions : List Value) : List Value :=
  additions.foldl
    (fun kept item =>
      if kept.any fun known => known.agrees item then kept else kept ++ [item])
    items

/-- The pairs of old and new paths of a payload: a document of them, or a list
of such documents. -/
def renamePairs (payload : Value) : Except StoreError (List (String × String)) :=
  let documents :=
    match payload with
    | .document entries => some [entries]
    | .array items => some (items.filterMap Value.asDocument?)
    | _ => none
  match documents with
  | none => .error (.invalidOperation .renameTargetNotString)
  | some found =>
    found.flatten.mapM fun (old, target) =>
      match target with
      | .string new => .ok (old, new)
      | _ => .error (.invalidOperation .renameTargetNotString)

/-- An item is to be removed: it meets the operators of the criterion, or
matches it as a filter, or agrees with it. -/
def isPulled (item criterion : Value) : Except StoreError Bool :=
  match criterion with
  | .document entries =>
    match Filter.operators? criterion with
    | some operators => Filter.meetsOperators (some item) operators
    | none =>
      match item with
      | .document fields => Document.meets fields entries
      | _ => .ok false
  | other => .ok (item.agrees other)

/-- The items that a criterion leaves. -/
def withoutPulled (criterion : Value) : List Value → Except StoreError (List Value)
  | [] => .ok []
  | item :: rest => do
    let pulled ← isPulled item criterion
    let kept ← withoutPulled criterion rest
    .ok (if pulled then kept else item :: kept)

/-- Give a path a value. -/
def setField (document : Document) (path : String) (value : Value) :
    Except StoreError Document :=
  .ok (document.setPath path value)

/-- Add an increment to the number at a path. -/
def incrementField (document : Document) (path : String) (increment : Value) :
    Except StoreError Document := do
  let sum ← add (document.getPath? path) increment path
  .ok (document.setPath path sum)

/-- Remove the value at a path. -/
def unsetField (document : Document) (path : String) (_ : Value) :
    Except StoreError Document :=
  .ok (document.unsetPath path)

/-- Append items to the array at a path. -/
def pushField (document : Document) (path : String) (payload : Value) :
    Except StoreError Document := do
  let items ← arrayAt document path
  .ok (document.setPath path (.array (items ++ itemsOf payload)))

/-- Append items to the array at a path unless they are there. -/
def addToSetField (document : Document) (path : String) (payload : Value) :
    Except StoreError Document := do
  let items ← arrayAt document path
  .ok (document.setPath path (.array (addMissing items (itemsOf payload))))

/-- Remove the first item of the array at a path if the payload is a number
below zero, else the last. -/
def popField (document : Document) (path : String) (payload : Value) :
    Except StoreError Document :=
  match document.getPath? path with
  | none => .ok document
  | some _ => do
    let items ← arrayAt document path
    let kept := if payload.isBelowZero then items.drop 1 else items.dropLast
    .ok (document.setPath path (.array kept))

/-- Remove the items of the array at a path that a criterion picks. -/
def pullField (document : Document) (path : String) (criterion : Value) :
    Except StoreError Document :=
  match document.getPath? path with
  | none => .ok document
  | some _ => do
    let items ← arrayAt document path
    let kept ← withoutPulled criterion items
    .ok (document.setPath path (.array kept))

/-- Move the value at one path to another. -/
def renameField (document : Document) (pair : String × String) : Document :=
  match document.takePath pair.1 with
  | (none, rest) => rest
  | (some value, rest) => rest.setPath pair.2 value

/-- Carry out a change of one path for every entry of a payload. -/
def forEach (change : Document → String → Value → Except StoreError Document)
    (entries : Document) (document : Document) : Except StoreError Document :=
  entries.foldlM (fun changed (path, value) => change changed path value)
    document

/-- Carry out one operator. -/
def applyOperator (document : Document) (operator : String) (spec : Value) :
    Except StoreError Document :=
  let each (change : Document → String → Value → Except StoreError Document) :=
    (payload operator spec).bind fun entries => forEach change entries document
  match operator with
  | "$set" => each setField
  | "$inc" => each incrementField
  | "$unset" => each unsetField
  | "$push" => each pushField
  | "$addToSet" => each addToSetField
  | "$pop" => each popField
  | "$pull" => each pullField
  | "$rename" => do
    let pairs ← renamePairs spec
    .ok (pairs.foldl renameField document)
  | _ => .error (.invalidOperation (.unknownUpdateOperator operator))

/-- The update names an operator. -/
def hasOperators (update : Document) : Bool :=
  update.any fun (name, _) => isOperatorName name

/-- The document that takes the place of another, with its identifier. -/
def replacement (document update : Document) : Document :=
  match document.get? "_id" with
  | some id => update.insert "_id" id
  | none => update

/-- The document after an update. -/
def result (document update : Document) : Except StoreError Document :=
  if hasOperators update then
    (update.filter fun (name, _) => isOperatorName name).foldlM
      (fun changed (operator, spec) => applyOperator changed operator spec)
      document
  else
    .ok (replacement document update)

/-- The outcome of a successful update. -/
structure Outcome where
  /-- The document afterwards. -/
  document : Document
  /-- It no longer equals the old one. -/
  changed : Bool

/-- Carry out an update on a document. -/
def apply (document update : Document) : Except StoreError Outcome :=
  (result document update).map fun next =>
    ⟨next, !Document.equals next document⟩

@[simp]
theorem forEach_nil
    (change : Document → String → Value → Except StoreError Document)
    (document : Document) : forEach change [] document = .ok document := rfl

theorem forEach_cons
    (change : Document → String → Value → Except StoreError Document)
    (path : String) (value : Value) (entries document : Document) :
    forEach change ((path, value) :: entries) document =
      (change document path value).bind (forEach change entries) := rfl

end Update

end DocQuery
