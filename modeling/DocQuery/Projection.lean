import DocQuery.Document.Path

/-!
# Projections

A projection names the fields to show or to hide.  If any field other than the
identifier is marked to be shown, only such fields are, with the identifier
unless it is marked otherwise; else every field that is named is hidden.
-/

namespace DocQuery

namespace Projection

/-- Some field other than the identifier is marked to be shown. -/
def isInclusion (projection : Document) : Bool :=
  projection.any fun (field, flag) => field != "_id" && flag.truthy

/-- The identifier is not marked to be hidden. -/
def keepsId (projection : Document) : Bool :=
  match projection.get? "_id" with
  | some flag => flag.truthy
  | none => true

/-- The identifier of a document, if the projection keeps it. -/
def idPart (projection document : Document) : Document :=
  match document.get? "_id" with
  | some id => if keepsId projection then [("_id", id)] else []
  | none => []

/-- Copy one field into the document being built. -/
def showField (document shown : Document) (entry : String × Value) : Document :=
  if entry.1 = "_id" ∨ entry.2.truthy = false then
    shown
  else
    match document.getPath? entry.1 with
    | some value => shown.setPath entry.1 value
    | none => shown

/-- Only the fields marked to be shown. -/
def shownFields (document projection : Document) : Document :=
  projection.foldl (showField document) (idPart projection document)

/-- All fields but those that are named. -/
def withoutNamed (document projection : Document) : Document :=
  projection.foldl (fun shown (field, _) => shown.unsetPath field) document

end Projection

/-- The part of a document that a projection shows. -/
def Document.project (document projection : Document) : Document :=
  if projection.isEmpty then document
  else if Projection.isInclusion projection then
    Projection.shownFields document projection
  else
    Projection.withoutNamed document projection

@[simp]
theorem Document.project_nil (document : Document) :
    document.project [] = document := rfl

end DocQuery
