import DocQuery.Json.Direct

/-!
# Requests

What a query asks of a store, and the record of the last request that was
answered.  Both can be read from JSON.
-/

namespace DocQuery

/-- What is done with a collection or a database. -/
inductive Action where
  | get
  | count
  | insert
  | batchInsert
  | update
  | updateAll
  | delete
  | deleteAll
  | addIndex
  | removeIndex
  | removeAllIndexes
  | listIndexes
  | dropCollection
  | command
  deriving DecidableEq, Repr, Inhabited

namespace Action

/-- The name of an action. -/
def name : Action → String
  | .get => "get"
  | .count => "count"
  | .insert => "insert"
  | .batchInsert => "batch_insert"
  | .update => "update"
  | .updateAll => "update_all"
  | .delete => "delete"
  | .deleteAll => "delete_all"
  | .addIndex => "add_index"
  | .removeIndex => "remove_index"
  | .removeAllIndexes => "remove_all_indexes"
  | .listIndexes => "list_indexes"
  | .dropCollection => "drop_collection"
  | .command => "command"

/-- All actions. -/
def all : List Action :=
  [.get, .count, .insert, .batchInsert, .update, .updateAll, .delete,
    .deleteAll, .addIndex, .removeIndex, .removeAllIndexes, .listIndexes,
    .dropCollection, .command]

/-- The action with a name. -/
def ofName? (text : String) : Option Action :=
  all.find? fun action => action.name == text

@[simp]
theorem ofName?_name (action : Action) :
    ofName? action.name = some action := by
  cases action <;> decide

end Action

/-- The name written as JSON: a string, or an object with the name as its only
member and nothing under it. -/
def Json.variantName? : Json → Option String
  | .string text => some text
  | .object [(name, .null)] => some name
  | _ => none

/-- What a query asks of a store. -/
structure Request where
  filter : Document
  update : Document
  projection : Document
  sort : Document
  limit : Int
  offset : Int
  deriving Inhabited

/-- The record of the last request that was answered. -/
structure QueryLog where
  collection : String
  /-- What was done; nothing when there was no request yet. -/
  action : Option Action
  filter : Document
  update : Document
  projection : Document
  limit : Int
  offset : Int
  sort : Document
  deriving Inhabited

namespace QueryLog

/-- The record before the first request. -/
def none : QueryLog := ⟨"", Option.none, [], [], [], 0, 0, []⟩

/-- No request was recorded. -/
def isEmpty (log : QueryLog) : Bool := log.action.isNone

end QueryLog

/-- The record of a request. -/
def Request.toLog (request : Request) (collection : String) (action : Action) :
    QueryLog :=
  { collection := collection
    action := some action
    filter := request.filter
    update := request.update
    projection := request.projection
    limit := request.limit
    offset := request.offset
    sort := request.sort }

namespace Json

/-- The values of fields that a record needs, in order; members with other
names are passed over, and none of the fields may be named twice.  An array
gives the fields by position.  A field that may be absent is `null` then. -/
def recordFields? (fields : List (String × Bool)) : Json → Option (List Json)
  | .array items => if items.length = fields.length then some items else none
  | .object members =>
    let isField (name : String) := fields.any fun (known, _) => known == name
    if members.all fun (name, value) => isField name || value.canIgnore then
      fields.mapM fun (name, needed) =>
        match members.filter fun (known, _) => known == name with
        | [(_, value)] => some value
        | [] => if needed then none else some .null
        | _ => none
    else
      none
  | _ => none

/-- The action of a record. -/
def action? : Json → Option (Option Action)
  | .null => some none
  | json => do
    let name ← json.variantName?
    let action ← Action.ofName? name
    some (some action)

/-- Read the record of a request. -/
def toQueryLog? (json : Json) : Option QueryLog := do
  match ← recordFields? [("collection", true), ("action", false),
      ("filter", true), ("update", true), ("projection", true),
      ("limit", true), ("offset", true), ("sort", true)] json with
  | [collection, action, filter, update, projection, limit, offset, sort] =>
    some {
      collection := ← collection.text?
      action := ← action? action
      filter := ← toDirectDocument? filter
      update := ← toDirectDocument? update
      projection := ← toDirectDocument? projection
      limit := (← int64? limit).toInt
      offset := (← int64? offset).toInt
      sort := ← toDirectDocument? sort }
  | _ => none

/-- Read a request. -/
def toRequest? (json : Json) : Option Request := do
  match ← recordFields? [("filter", true), ("update", true),
      ("projection", true), ("sort", true), ("limit", true),
      ("offset", true)] json with
  | [filter, update, projection, sort, limit, offset] =>
    some {
      filter := ← toDirectDocument? filter
      update := ← toDirectDocument? update
      projection := ← toDirectDocument? projection
      sort := ← toDirectDocument? sort
      limit := (← int64? limit).toInt
      offset := (← int64? offset).toInt }
  | _ => none

end Json

end DocQuery
