import DocQuery.Clause.Directive
import DocQuery.Clause.WriteDefaults
import DocQuery.Failure
import DocQuery.Store.Interface

/-!
# Operations

What a query builder can be told to carry out.  Every operation makes one call
to a store, built from its arguments and from the query under construction,
and reads its result out of the answer.
-/

namespace DocQuery

/-- An operation of a query builder. -/
inductive Operation where
  /-- Fetch the page of documents that the query selects. -/
  | get (collection : String)
  /-- Fetch after adding that all fields equal their values. -/
  | getWhere (collection : String) (fields : Document)
  /-- Fetch without reading. -/
  | getCursor (collection : String)
  | count (collection : String)
  | insert (collection : String) (document options : Document)
  | batchInsert (collection : String) (documents : List Document)
      (options : Document)
  /-- Update the first match. -/
  | update (collection : String) (options : Document)
  /-- Update all matches. -/
  | updateAll (collection : String) (options : Document)
  /-- Delete the first match. -/
  | delete (collection : String)
  /-- Delete all matches. -/
  | deleteAll (collection : String)
  | addIndex (collection : String) (fields options : Document)
  | removeIndex (collection : String) (fields : Document)
  | removeAllIndexes (collection : String)
  | listIndexes (collection : String)
  | dropCollection (collection : String)
  /-- Send a command to the database. -/
  | command (instruction : Document)
  deriving Inhabited

namespace Operation

/-- What an operation gives when it does not fail. -/
def Result : Operation → Type
  | .get .. => List Document
  | .getWhere .. => List Document
  | .getCursor .. => Cursor
  | .count .. => Nat
  /- The `_id` of the document, or nothing if none was stored. -/
  | .insert .. => Option Value
  | .batchInsert .. => Document
  /- How many documents met the filter, or nothing if none did. -/
  | .update .. => Option Nat
  | .updateAll .. => Option Nat
  | .delete .. => Bool
  | .deleteAll .. => Bool
  | .addIndex .. => Unit
  | .removeIndex .. => Unit
  | .removeAllIndexes .. => Unit
  | .listIndexes .. => List Document
  | .dropCollection .. => Bool
  | .command .. => Document

/-- The action under which an operation is recorded. -/
def action : Operation → Action
  | .get .. | .getWhere .. | .getCursor .. => .get
  | .count .. => .count
  | .insert .. => .insert
  | .batchInsert .. => .batchInsert
  | .update .. => .update
  | .updateAll .. => .updateAll
  | .delete .. => .delete
  | .deleteAll .. => .deleteAll
  | .addIndex .. => .addIndex
  | .removeIndex .. => .removeIndex
  | .removeAllIndexes .. => .removeAllIndexes
  | .listIndexes .. => .listIndexes
  | .dropCollection .. => .dropCollection
  | .command .. => .command

/-- The collection under which commands are recorded. -/
def commandCollection : String := "$cmd"

/-- The collection that an operation names; commands name none. -/
def collection? : Operation → Option String
  | .get collection | .getWhere collection _ | .getCursor collection
  | .count collection | .insert collection _ _ | .batchInsert collection _ _
  | .update collection _ | .updateAll collection _ | .delete collection
  | .deleteAll collection | .addIndex collection _ _
  | .removeIndex collection _ | .removeAllIndexes collection
  | .listIndexes collection | .dropCollection collection => some collection
  | .command _ => none

/-- The collection of an operation without its blank margin, of which
something must be left. -/
def target (operation : Operation) : Except Fault String :=
  match operation.collection? with
  | none => .ok commandCollection
  | some collection =>
    let name := Text.trim collection
    if name = "" then .error (.noCollection operation.action) else .ok name

/-- What an operation misses that it needs beside a collection. -/
def missing? (updates : Updates) : Operation → Option Fault
  | .insert _ document _ =>
    if document.isEmpty then some .nothingToInsert else none
  | .batchInsert _ documents _ =>
    if documents.isEmpty || documents.any List.isEmpty then
      some .nothingToInsert
    else
      none
  | .update .. | .updateAll .. =>
    if updates.isEmpty then some .nothingToUpdate else none
  | .addIndex _ fields _ => if fields.isEmpty then some .noKeysToAdd else none
  | .removeIndex _ fields =>
    if fields.isEmpty then some .noKeysToRemove else none
  | _ => none

/-- The collection of an operation that has all it needs. -/
def check (operation : Operation) (updates : Updates) : Except Fault String :=
  match operation.target with
  | .error fault => .error fault
  | .ok target =>
    match operation.missing? updates with
    | some fault => .error fault
    | none => .ok target

/-- The query that an operation is about: one that adds a condition adds it
first. -/
def envelope (query : Envelope) : Operation → Envelope
  | .getWhere _ fields => query.follow (.condition (.allEqual fields))
  | _ => query

/-- An `_id` that is written as the digits of an identifier stands for that
identifier. -/
def withIdentifier (filter : Document) : Document :=
  match filter.get? "_id" with
  | some (.string text) =>
    match ObjectId.ofHex? text with
    | some id => filter.insert "_id" (.objectId id)
    | none => filter
  | _ => filter

/-- The request that an operation makes of a query. -/
def request (query : Envelope) (operation : Operation) : Request :=
  let request := (operation.envelope query).compile
  match operation with
  | .deleteAll _ => { request with filter := withIdentifier request.filter }
  | _ => request

/-- The key of an index over some fields. -/
def indexKey (fields : Document) : Document :=
  fields.map fun (field, direction) =>
    (field, (Direction.ofValue direction).toValue)

/-- The call that an operation makes. -/
def call (defaults : WriteDefaults) (target : String) (request : Request) :
    Operation → Store.Call
  | .get _ | .getWhere _ _ | .getCursor _ =>
    .find target request.filter request.projection
  | .count _ =>
    .count target request.filter request.limit.toNat request.offset.toNat
  | .insert _ document options =>
    .insert target document (defaults.insertion.merge options)
  | .batchInsert _ documents options =>
    .batchInsert target documents (defaults.insertion.merge options)
  | .update _ options =>
    .update target request.filter request.update
      ((defaults.update false).merge options)
  | .updateAll _ options =>
    .update target request.filter request.update
      ((defaults.update true).merge options)
  | .delete _ => .remove target request.filter (defaults.removal true)
  | .deleteAll _ => .remove target request.filter (defaults.removal false)
  | .addIndex _ fields options =>
    .ensureIndex target (indexKey fields) options
  | .removeIndex _ fields => .deleteIndex target (indexKey fields)
  | .removeAllIndexes _ => .deleteIndexes target
  | .listIndexes _ => .indexInfo target
  | .dropCollection _ => .dropCollection target
  | .command instruction => .runCommand instruction

/-- The page of a cursor that a request asks for. -/
def page (request : Request) (cursor : Cursor) : Cursor :=
  ((cursor.sorted request.sort).skipping request.offset.toNat).limited
    request.limit.toNat

/-- How many documents an update concerned, or nothing if it concerned
none. -/
def matchedCount? (report : UpdateReport) : Option Nat :=
  if 0 < report.matched then some report.matched else none

/-- The answer of a store that may decline. -/
def accepted (reason : Rejection) (answer : Bool) : Except StoreError Unit :=
  if answer then .ok () else .error (.rejected reason)

/-- Read the result of an operation out of the answer to its call. -/
def read (defaults : WriteDefaults) (target : String) (request : Request) :
    (operation : Operation) →
      (operation.call defaults target request).Answer →
      Except StoreError operation.Result
  | .get _, cursor | .getWhere _ _, cursor =>
    .ok (page request cursor).toList
  | .getCursor _, cursor => .ok (page request cursor)
  | .count _, total => .ok total
  | .insert .., id => .ok id
  | .batchInsert .., answer => .ok answer
  | .update .., report | .updateAll .., report => .ok (matchedCount? report)
  | .delete _, answer | .deleteAll _, answer => .ok answer
  | .addIndex .., answer => accepted .indexNotAdded answer
  | .removeIndex .., answer => accepted .indexNotRemoved answer
  | .removeAllIndexes _, answer => .ok answer
  | .listIndexes _, answer => .ok answer
  | .dropCollection _, answer => .ok answer
  | .command _, answer => .ok answer

end Operation

end DocQuery
