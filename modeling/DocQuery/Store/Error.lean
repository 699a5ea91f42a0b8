/-!
# Failures of a store

Why a store operation can fail, and the message of each failure.
-/

namespace DocQuery

/-- A filter, an update or an index that cannot be carried out as written. -/
inductive Misuse where
  | unknownTopLevelOperator (name : String)
  | unknownOperator (name : String)
  /-- A logical operator without branches. -/
  | noBranches (operator : String)
  | branchNotDocument (operator : String)
  | operandNotArray (operator : String)
  | patternNotString
  | unknownPatternFlag (flag : Char)
  | malformedPattern
  /-- A proximity operator whose operand is no pair of coordinates. -/
  | targetNotPoint (operator : String)
  | payloadNotDocument (operator : String)
  | incrementNotNumeric (field : String)
  | fieldNotArray (path : String)
  | renameTargetNotString
  | unknownUpdateOperator (name : String)
  | noIndexKeys
  deriving DecidableEq, Repr

/-- A request that the store understood and refused. -/
inductive Rejection where
  /-- Two documents would have the same key in a unique index. -/
  | duplicateKey (index : String)
  | identityIndexDropped
  | indexNotAdded
  | indexNotRemoved
  | other (reason : String)
  deriving DecidableEq, Repr

/-- A database command that cannot be run. -/
inductive CommandFailure where
  | noCommand
  | collectionNotNamed (command : String)
  | collectionNotFound (collection : String)
  | unknownCommand (name : String)
  | other (reason : String)
  deriving DecidableEq, Repr

/-- The failure of a store operation. -/
inductive StoreError where
  | connection (reason : String)
  | rejected (reason : Rejection)
  | command (reason : CommandFailure)
  | invalidOperation (reason : Misuse)
  deriving DecidableEq, Repr

/-- What is wrong with an operation. -/
def Misuse.message : Misuse → String
  | .unknownTopLevelOperator name => s!"unknown top level operator: {name}"
  | .unknownOperator name => s!"unknown operator: {name}"
  | .noBranches operator => s!"{operator} requires a nonempty array"
  | .branchNotDocument operator => s!"{operator} entries must be documents"
  | .operandNotArray operator => s!"{operator} needs an array"
  | .patternNotString => "$regex needs a string"
  | .unknownPatternFlag flag => s!"invalid regex flag: {flag}"
  | .malformedPattern => "regex parse error"
  | .targetNotPoint operator => s!"{operator} needs [x, y]"
  | .payloadNotDocument operator => s!"{operator} needs a document"
  | .incrementNotNumeric field => s!"cannot $inc non-numeric field `{field}`"
  | .fieldNotArray path => s!"field `{path}` is not an array"
  | .renameTargetNotString => "$rename targets must be strings"
  | .unknownUpdateOperator name => s!"unknown update operator: {name}"
  | .noIndexKeys => "index keys are empty"

/-- Why a request was refused. -/
def Rejection.message : Rejection → String
  | .duplicateKey index => s!"duplicate key for index {index}"
  | .identityIndexDropped => "cannot drop the _id index"
  | .indexNotAdded => "an error occurred when trying to add an index"
  | .indexNotRemoved => "an error occurred when trying to remove an index"
  | .other reason => reason

/-- Why a command failed. -/
def CommandFailure.message : CommandFailure → String
  | .noCommand => "empty command document"
  | .collectionNotNamed command => s!"{command} needs a collection name"
  | .collectionNotFound collection => s!"ns not found: {collection}"
  | .unknownCommand name => s!"no such command: '{name}'"
  | .other reason => reason

/-- The whole message of a failure. -/
def StoreError.message : StoreError → String
  | .connection reason => s!"connection failed: {reason}"
  | .rejected reason => "request rejected: " ++ reason.message
  | .command reason => "command failed: " ++ reason.message
  | .invalidOperation reason => "invalid operation: " ++ reason.message

end DocQuery
