import DocQuery.Value

/-!
# Accumulated updates

The update of a query under construction: a payload of fields under every
operator that was used, in the order of first use.
-/

namespace DocQuery

/-- An operator of an update. -/
inductive UpdateOperator where
  | inc
  | set
  | unset
  | addToSet
  | push
  | pop
  | pull
  | rename
  deriving DecidableEq, Repr

/-- The name of an operator in an update document. -/
def UpdateOperator.name : UpdateOperator → String
  | .inc => "$inc"
  | .set => "$set"
  | .unset => "$unset"
  | .addToSet => "$addToSet"
  | .push => "$push"
  | .pop => "$pop"
  | .pull => "$pull"
  | .rename => "$rename"

/-- The update of a query under construction. -/
structure Updates where
  /-- The update document so far. -/
  document : Document
  deriving Inhabited

namespace Updates

/-- No update. -/
def empty : Updates := ⟨[]⟩

/-- No operator was used. -/
def isEmpty (updates : Updates) : Bool := updates.document.isEmpty

/-- The payload of an operator, empty if it has none that is a document. -/
def payload (updates : Updates) (operator : UpdateOperator) : Document :=
  match updates.document.get? operator.name with
  | some (.document entries) => entries
  | _ => []

/-- Give the fields of a payload new values; the payload comes into being even
when no field is given. -/
def putAll (updates : Updates) (operator : UpdateOperator)
    (fields : Document) : Updates :=
  ⟨updates.document.insert operator.name
    (.document ((updates.payload operator).merge fields))⟩

/-- Give one field of a payload a new value. -/
def put (updates : Updates) (operator : UpdateOperator) (field : String)
    (value : Value) : Updates :=
  updates.putAll operator [(field, value)]

/-- Let the removal of array items concern one field only. -/
def replacePull (updates : Updates) (field : String) (criterion : Value) :
    Updates :=
  ⟨updates.document.insert UpdateOperator.pull.name
    (.document [(field, criterion)])⟩

/-- The pairs renamed so far, if they are in a list. -/
def renames (updates : Updates) : List Value :=
  match updates.document.get? UpdateOperator.rename.name with
  | some (.array pairs) => pairs
  | _ => []

/-- Add a pair of an old and a new name to those to be renamed. -/
def addRename (updates : Updates) (old new : String) : Updates :=
  ⟨updates.document.insert UpdateOperator.rename.name
    (.array (updates.renames ++ [.document [(old, .string new)]]))⟩

/-- The update document. -/
def compile (updates : Updates) : Document := updates.document

@[simp]
theorem compile_empty : compile empty = [] := rfl

end Updates

end DocQuery
