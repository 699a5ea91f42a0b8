import DocQuery.Store.Error
import DocQuery.Value

/-!
# Database commands

A command is a document whose first entry names what is to be done.
-/

namespace DocQuery

/-- What a database can be told to do. -/
inductive Command where
  | ping
  /-- Count the documents of a collection that meet a filter. -/
  | count (collection : String) (filter : Document)
  | drop (collection : String)
  | listCollections
  | dropDatabase
  deriving Inhabited

namespace Command

/-- The collection that the operand of a command names. -/
def collectionOf (command : String) (operand : Value) :
    Except CommandFailure String :=
  match operand.asString? with
  | some collection => .ok collection
  | none => .error (.collectionNotNamed command)

/-- The filter beside the first entry of a command, if it is a document. -/
def filterOf (command : Document) : Document :=
  match command.get? "query" with
  | some (.document filter) => filter
  | _ => []

/-- Read a command. -/
def ofDocument (command : Document) : Except CommandFailure Command :=
  match command with
  | [] => .error .noCommand
  | (name, operand) :: _ =>
    match name with
    | "ping" => .ok .ping
    | "count" => do
      let collection ← collectionOf name operand
      return .count collection (filterOf command)
    | "drop" => do
      let collection ← collectionOf name operand
      return .drop collection
    | "listCollections" => .ok .listCollections
    | "dropDatabase" => .ok .dropDatabase
    | other => .error (.unknownCommand other)

end Command

end DocQuery
