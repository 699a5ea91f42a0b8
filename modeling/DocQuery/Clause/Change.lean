import DocQuery.Clause.Updates

/-!
# Changes

What an update can do to a document, and how each change is added to the
update under construction.
-/

namespace DocQuery

/-- A change of a document. -/
inductive Change where
  | increment (field : String) (amount : Value)
  | incrementAll (amounts : Document)
  /-- The amount is added as it is: a negative one subtracts. -/
  | decrement (field : String) (amount : Value)
  | decrementAll (amounts : Document)
  | set (field : String) (value : Value)
  | setAll (fields : Document)
  | unset (fields : List String)
  /-- Add a value to an array unless it is there; of an array, every item. -/
  | addToSet (field : String) (value : Value)
  | addEachToSet (field : String) (values : List Value)
  | push (field : String) (value : Value)
  | pushAll (fields : Document)
  /-- Remove the first item of arrays. -/
  | pop (fields : List String)
  | pull (field : String) (criterion : Value)
  | rename (old new : String)
  deriving Inhabited

namespace Updates

/-- Add every one of some values to an array unless it is there. -/
def putEach (updates : Updates) (field : String) (values : List Value) :
    Updates :=
  updates.put .addToSet field (.document [("$each", .array values)])

/-- Add a change. -/
def record (updates : Updates) : Change → Updates
  | .increment field amount => updates.put .inc field amount
  | .incrementAll amounts => updates.putAll .inc amounts
  | .decrement field amount => updates.put .inc field amount
  | .decrementAll amounts => updates.putAll .inc amounts
  | .set field value => updates.put .set field value
  | .setAll fields => updates.putAll .set fields
  | .unset fields =>
    updates.putAll .unset (fields.map fun field => (field, .ofInt 1))
  | .addToSet field (.array values) => updates.putEach field values
  | .addToSet field value => updates.put .addToSet field value
  | .addEachToSet field values => updates.putEach field values
  | .push field value => updates.put .push field value
  | .pushAll fields => updates.putAll .push fields
  | .pop fields =>
    updates.putAll .pop (fields.map fun field => (field, .ofInt (-1)))
  | .pull field criterion => updates.replacePull field criterion
  | .rename old new => updates.addRename old new

end Updates

end DocQuery
