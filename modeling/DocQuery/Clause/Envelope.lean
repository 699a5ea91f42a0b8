import DocQuery.Clause.Direction
import DocQuery.Clause.Predicates
import DocQuery.Clause.Updates
import DocQuery.Request
import DocQuery.Value.Number

/-!
# Queries under construction

All that has been accumulated for the next request: predicates, an update, the
fields to show or hide, the sort, and the range of positions.
-/

namespace DocQuery

/-- A query under construction. -/
structure Envelope where
  predicates : Predicates
  updates : Updates
  /-- The fields to show, each once. -/
  includes : List String
  /-- The fields to hide, each once. -/
  excludes : List String
  /-- The fields to sort by, each once. -/
  sorts : List (String × Direction)
  limit : Int64
  offset : Int64
  deriving Inhabited

namespace Envelope

/-- The limit of a query that sets none. -/
def defaultLimit : Int64 := 999999

/-- The offset of a query that sets none. -/
def defaultOffset : Int64 := 0

/-- A query before anything was accumulated. -/
def empty : Envelope :=
  ⟨.empty, .empty, [], [], [], defaultLimit, defaultOffset⟩

/-- Add a name to a list unless it is there. -/
def addName (names : List String) (name : String) : List String :=
  if names.contains name then names else names ++ [name]

/-- Show a field. -/
def reveal (envelope : Envelope) (field : String) : Envelope :=
  { envelope with includes := addName envelope.includes field }

/-- Hide a field. -/
def conceal (envelope : Envelope) (field : String) : Envelope :=
  { envelope with excludes := addName envelope.excludes field }

/-- Show the fields of the first list, or hide those of the second when the
first is empty. -/
def select (envelope : Envelope) (includes excludes : List String) : Envelope :=
  if includes.isEmpty then excludes.foldl conceal envelope
  else includes.foldl reveal envelope

/-- The projection: once a field is to be shown, no field is hidden. -/
def projection (envelope : Envelope) : Document :=
  if envelope.includes.isEmpty then
    Document.ofEntries (envelope.excludes.map fun field => (field, .ofInt 0))
  else
    Document.ofEntries (envelope.includes.map fun field => (field, .ofInt 1))

/-- Give a field a direction at its place among the fields to sort by. -/
def putDirection (field : String) (direction : Direction) :
    List (String × Direction) → List (String × Direction)
  | [] => [(field, direction)]
  | (known, old) :: rest =>
    if known = field then (known, direction) :: rest
    else (known, old) :: putDirection field direction rest

/-- Sort by a field, after those named before. -/
def order (envelope : Envelope) (field : String) (direction : Direction) :
    Envelope :=
  { envelope with sorts := putDirection field direction envelope.sorts }

/-- Sort by all fields of a document. -/
def orderBy (envelope : Envelope) (fields : Document) : Envelope :=
  fields.foldl
    (fun ordered (field, value) => ordered.order field (.ofValue value))
    envelope

/-- The sort. -/
def sort (envelope : Envelope) : Document :=
  Document.ofEntries (envelope.sorts.map fun (field, direction) =>
    (field, direction.toValue))

/-- Set a bound that a value reads as, if it is not below `least`; otherwise
there is none. -/
def bound? (least : Int64) (value : Value) : Option Int64 :=
  value.toInt64?.filter fun bound => decide (least ≤ bound)

/-- Set the limit to a value that reads as at least one; any other value is
not accepted and changes nothing. -/
def setLimit (envelope : Envelope) (value : Value) : Bool × Envelope :=
  match bound? 1 value with
  | some limit => (true, { envelope with limit := limit })
  | none => (false, envelope)

/-- Set the offset to a value that reads as at least zero; any other value is
not accepted and changes nothing. -/
def setOffset (envelope : Envelope) (value : Value) : Bool × Envelope :=
  match bound? 0 value with
  | some offset => (true, { envelope with offset := offset })
  | none => (false, envelope)

/-- The request that the query has come to. -/
def compile (envelope : Envelope) : Request :=
  { filter := envelope.predicates.compile
    update := envelope.updates.compile
    projection := envelope.projection
    sort := envelope.sort
    limit := envelope.limit.toInt
    offset := envelope.offset.toInt }

end Envelope

end DocQuery
