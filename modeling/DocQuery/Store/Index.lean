import DocQuery.Clause.Direction
import DocQuery.Document.Path
import DocQuery.Store.Error
import DocQuery.Value.Equality

/-!
# Indexes

An index of a collection has a name and a key: the paths it is over, each with
a direction.  A unique index allows no two documents whose values at all of
its paths agree, where a missing value counts as `null`.
-/

namespace DocQuery

/-- An index of a collection. -/
structure Index where
  name : String
  /-- The paths with their directions. -/
  key : Document
  unique : Bool
  deriving Inhabited

namespace Index

/-- The name of the index that every collection has. -/
def identityName : String := "_id_"

/-- The index that every collection has. -/
def identity : Index := ⟨identityName, [("_id", .ofInt 1)], true⟩

/-- A path with its direction, as a part of a name. -/
def namePart (path : String) (direction : Direction) : List Char :=
  path.toList ++ '_' :: match direction with
    | .asc => ['1']
    | .desc => ['-', '1']

/-- The name of an index over a key: every path with its direction, all joined
by `_`. -/
def nameOf (key : Document) : String :=
  String.ofList (Text.join ['_'] (key.map fun (path, direction) =>
    namePart path (.ofValue direction)))

/-- What is said about an index to those who ask. -/
def describe (index : Index) : Document :=
  let described : Document :=
    [("name", .string index.name), ("key", .document index.key)]
  if index.unique then described.insert "unique" (.boolean true) else described

/-- The values of a document at the paths of an index. -/
def keyValues (index : Index) (document : Document) : List Value :=
  index.key.map fun (path, _) => (document.getPath? path).getD .null

/-- Two documents have the same values at the paths of an index. -/
def sameKey (index : Index) (stored document : Document) : Bool :=
  ((index.keyValues stored).zip (index.keyValues document)).all
    fun (left, right) => left.agrees right

/-- A unique index does not allow a document beside others. -/
def clashes (index : Index) (others : List Document) (document : Document) :
    Bool :=
  index.unique && others.any fun stored => index.sameKey stored document

/-- No two documents have the same values at the paths of an index. -/
def separates (index : Index) : List Document → Bool
  | [] => true
  | document :: rest =>
    !rest.any (index.sameKey document) && separates index rest

/-- Why a document is not stored. -/
def duplicateKey (index : Index) : StoreError :=
  .rejected (.duplicateKey index.name)

@[simp]
theorem clashes_nil (index : Index) (document : Document) :
    index.clashes [] document = false := by
  simp [clashes]

end Index

/-- Fails with the first index that does not allow a document beside others. -/
def Index.checkAll (indexes : List Index) (others : List Document)
    (document : Document) : Except StoreError Unit :=
  match indexes.find? fun index => index.clashes others document with
  | some index => .error index.duplicateKey
  | none => .ok ()

end DocQuery
