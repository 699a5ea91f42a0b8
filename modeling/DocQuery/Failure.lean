import DocQuery.Json.Sorted
import DocQuery.Request
import DocQuery.Store.Error

/-!
# Failures of queries

Why a request was not answered.  A fault lies with the caller and is found
before any store is asked; every other failure comes from outside.
-/

namespace DocQuery

/-- What is wrong with a request or a setting. -/
inductive Fault where
  /-- The name of the collection is blank. -/
  | noCollection (action : Action)
  | nothingToInsert
  | nothingToUpdate
  | noKeysToAdd
  | noKeysToRemove
  | noConnectionString
  | noDatabase
  | notObject
  | notConvertible
  deriving DecidableEq, Repr

/-- What is missing when the name of the collection is blank. -/
def Action.missingCollection : Action → String
  | .get =>
    "In order to retrieve documents from MongoDB, a collection name must be " ++
      "passed"
  | .count =>
    "In order to retrieve a count of documents from MongoDB, a collection " ++
      "name must be passed"
  | .insert | .batchInsert => "No Mongo collection selected to insert into"
  | .update | .updateAll => "No Mongo collection selected to update"
  | .delete | .deleteAll => "No Mongo collection selected to delete from"
  | .addIndex => "No Mongo collection specified to add index to"
  | .removeIndex => "No Mongo collection specified to remove index from"
  | .removeAllIndexes =>
    "No Mongo collection specified to remove all indexes from"
  | .listIndexes => "No Mongo collection specified to list indexes of"
  | .dropCollection => "No Mongo collection specified to drop"
  | .command => "No Mongo collection specified for command"

/-- The message of a fault. -/
def Fault.message : Fault → String
  | .noCollection action => action.missingCollection
  | .nothingToInsert =>
    "Nothing to insert into Mongo collection or insert is not an array"
  | .nothingToUpdate =>
    "Nothing to update in Mongo collection or update is not an array"
  | .noKeysToAdd =>
    "Index could not be created to MongoDB Collection because no keys were " ++
      "specified"
  | .noKeysToRemove =>
    "Index could not be removed from MongoDB Collection because no keys were " ++
      "specified"
  | .noConnectionString => "The DSN is empty"
  | .noDatabase => "The database name must be set in the DSN string"
  | .notObject => "expected JSON object"
  | .notConvertible => "a value is not written in the form of its kind"

/-- Why a request was not answered, or a setting or a text not read. -/
inductive Failure where
  | configuration (fault : Fault)
  /-- The store failed. -/
  | store (action : Action) (collection : String) (source : StoreError)
  /-- A file could not be read. -/
  | file
  /-- A text is not TOML, or not of the expected form. -/
  | toml
  /-- A text is not JSON. -/
  | json
  deriving DecidableEq, Repr

namespace Failure

/-- The caller is at fault. -/
def isConfiguration : Failure → Bool
  | .configuration _ => true
  | _ => false

/-- The whole message of a failure. -/
def message : Failure → String
  | .configuration fault => "Configuration error: " ++ fault.message
  | .store action collection source =>
    action.name ++ " on `" ++ collection ++ "` failed: " ++ source.message
  | .file => "the file cannot be read"
  | .toml => "the text is no TOML of the expected form"
  | .json => "the text is no JSON of the expected form"

/-- Why a text is no document, as a failure. -/
def ofReadError : Json.ReadError → Failure
  | .notJson => .json
  | .notObject => .configuration .notObject
  | .notConvertible => .configuration .notConvertible

end Failure

end DocQuery
