import DocQuery.Text.Pieces
import DocQuery.Value

/-!
# Paths into documents

A path names a value inside nested documents by the names on the way,
separated by points.  Reading follows a path only if it is not empty, has at
most 1024 bytes and at most 32 names; arrays and scalars stop it.  Writing
follows every path and puts a new document wherever something else, or
nothing, stands in the way.
-/

namespace DocQuery

/-- The names on a path. -/
def pathNames (path : String) : List String := Text.splitAt '.' path

/-- The greatest count of names on a readable path. -/
def maxPathNames : Nat := 32

/-- The greatest count of bytes of a readable path. -/
def maxPathBytes : Nat := 1024

/-- Reading follows this path. -/
def isReadablePath (path : String) : Bool :=
  decide (0 < path.utf8ByteSize) && decide (path.utf8ByteSize ≤ maxPathBytes) &&
    decide ((pathNames path).length ≤ maxPathNames)

namespace Document

/-- The document under a name, empty if there is none. -/
def subdocument (document : Document) (name : String) : Document :=
  match document.get? name with
  | some (.document entries) => entries
  | _ => []

/-- Follow names through nested documents. -/
def follow? : List String → Document → Option Value
  | [], _ => none
  | [name], document => document.get? name
  | name :: next :: rest, document =>
    match document.get? name with
    | some (.document entries) => follow? (next :: rest) entries
    | _ => none

/-- Write a value at the end of a list of names. -/
def place : List String → Value → Document → Document
  | [], _, document => document
  | [name], value, document => document.insert name value
  | name :: next :: rest, value, document =>
    document.insert name
      (.document (place (next :: rest) value (document.subdocument name)))

/-- Remove the value at the end of a list of names. -/
def remove : List String → Document → Document
  | [], document => document
  | [name], document => document.erase name
  | name :: next :: rest, document =>
    document.insert name
      (.document (remove (next :: rest) (document.subdocument name)))

/-- The value that is removed at the end of a list of names: the one that the
last document on the way has under the last name.  Nothing is in a document
that would have to be put in the way first. -/
def removed : List String → Document → Option Value
  | [], _ => none
  | [name], document => document.get? name
  | name :: next :: rest, document =>
    removed (next :: rest) (document.subdocument name)

/-- The value at a path. -/
def getPath? (document : Document) (path : String) : Option Value :=
  if isReadablePath path then
    document.follow? (pathNames path)
  else
    none

/-- Write a value at a path. -/
def setPath (document : Document) (path : String) (value : Value) : Document :=
  document.place (pathNames path) value

/-- Remove the value at a path, if reading finds one there. -/
def unsetPath (document : Document) (path : String) : Document :=
  match document.getPath? path with
  | some _ => document.remove (pathNames path)
  | none => document

/-- Take the value at a path out of a document, if reading finds one there: the
value, and the document without it. -/
def takePath (document : Document) (path : String) : Option Value × Document :=
  match document.getPath? path with
  | some _ =>
    (document.removed (pathNames path), document.remove (pathNames path))
  | none => (none, document)

@[simp]
theorem follow?_place_self (names : List String) (value : Value)
    (document : Document) (some_names : names ≠ []) :
    follow? names (place names value document) = some value := by
  induction names generalizing document with
  | nil => exact absurd rfl some_names
  | cons name rest ih =>
    cases rest with
    | nil => simp [follow?, place]
    | cons next others => simp [follow?, place, ih]

@[simp]
theorem place_place (names : List String) (first second : Value)
    (document : Document) :
    place names second (place names first document) =
      place names second document := by
  induction names generalizing document with
  | nil => rfl
  | cons name rest ih =>
    cases rest with
    | nil => simp [place]
    | cons next others => simp [place, subdocument, ih]

/-- Taking a value out leaves the document that removing it leaves. -/
@[simp]
theorem takePath_snd (document : Document) (path : String) :
    (document.takePath path).2 = document.unsetPath path := by
  unfold takePath unsetPath
  cases document.getPath? path <;> rfl

theorem unsetPath_of_getPath?_eq_none {document : Document} {path : String}
    (missing : document.getPath? path = none) :
    document.unsetPath path = document := by
  simp [unsetPath, missing]

end Document

end DocQuery
