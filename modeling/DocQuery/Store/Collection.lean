import DocQuery.Filter
import DocQuery.Store.Index
import DocQuery.Store.Interface
import DocQuery.Update

/-!
# Collections

A collection is a list of documents, in the order in which they were stored,
with its indexes.  An operation either gives the collection afterwards or
fails, and then there is no new collection.
-/

namespace DocQuery

/-- Documents and the indexes over them. -/
structure Collection where
  documents : List Document
  indexes : List Index
  deriving Inhabited

/-- A document of a collection, and whether an operation concerns it. -/
structure Marked where
  document : Document
  hit : Bool
  deriving Inhabited

namespace Marked

/-- Mark the documents that meet a filter. -/
def ofFilter (filter : Document) :
    List Document → Except StoreError (List Marked)
  | [] => .ok []
  | document :: rest => do
    let hit ← document.meets filter
    let marked ← ofFilter filter rest
    return ⟨document, hit⟩ :: marked

/-- Leave only the first mark. -/
def firstOnly : List Marked → List Marked
  | [] => []
  | marked :: rest =>
    if marked.hit then
      marked :: rest.map fun other => { other with hit := false }
    else
      marked :: firstOnly rest

/-- The documents with a mark. -/
def hits (marked : List Marked) : List Document :=
  (marked.filter Marked.hit).map Marked.document

/-- The documents without a mark. -/
def misses (marked : List Marked) : List Document :=
  (marked.filter fun one => !one.hit).map Marked.document

theorem documents_ofFilter {filter : Document} {documents : List Document}
    {marked : List Marked} (evaluated : ofFilter filter documents = .ok marked) :
    marked.map Marked.document = documents := by
  induction documents generalizing marked with
  | nil =>
    simp only [ofFilter, Except.ok.injEq] at evaluated
    simp [← evaluated]
  | cons document rest ih =>
    simp only [ofFilter, bind, Except.bind] at evaluated
    split at evaluated
    · simp at evaluated
    · split at evaluated
      · simp at evaluated
      · next others found =>
        simp only [pure, Except.pure, Except.ok.injEq] at evaluated
        simp [← evaluated, ih found]

@[simp]
theorem documents_firstOnly (marked : List Marked) :
    (firstOnly marked).map Marked.document =
      marked.map Marked.document := by
  induction marked with
  | nil => rfl
  | cons one rest ih =>
    by_cases hit : one.hit
    · simp [firstOnly, hit, Function.comp_def]
    · simp [firstOnly, hit, ih]

end Marked

/-- A document of a collection as an update leaves it. -/
structure Amended where
  document : Document
  /-- The update concerned the document. -/
  hit : Bool
  /-- The update made it different. -/
  changed : Bool
  deriving Inhabited

namespace Amended

/-- Apply an update to the documents with a mark. -/
def ofMarked (update : Document) :
    List Marked → Except StoreError (List Amended)
  | [] => .ok []
  | marked :: rest => do
    let one ←
      if marked.hit then do
        let outcome ← Update.apply marked.document update
        pure ⟨outcome.document, true, outcome.changed⟩
      else
        pure ⟨marked.document, false, false⟩
    let others ← ofMarked update rest
    return one :: others

/-- Fails with the first document the update concerned that is not allowed
beside all the others. -/
def check (indexes : List Index) (before : List Document) :
    List Amended → Except StoreError Unit
  | [] => .ok ()
  | one :: rest => do
    if one.hit then
      Index.checkAll indexes (before ++ rest.map Amended.document)
        one.document
    check indexes (before ++ [one.document]) rest

/-- How many documents the update concerned and changed. -/
def report (amended : List Amended) : UpdateReport :=
  ⟨amended.countP Amended.hit, amended.countP Amended.changed⟩

end Amended

namespace Collection

/-- A collection without documents. -/
def empty : Collection := ⟨[], [.identity]⟩

/-- The documents that meet a filter. -/
def find (collection : Collection) (filter : Document) :
    Except StoreError (List Document) := do
  let marked ← Marked.ofFilter filter collection.documents
  return Marked.hits marked

/-- Store a document after the others. -/
def insert (collection : Collection) (document : Document) :
    Except StoreError Collection := do
  Index.checkAll collection.indexes collection.documents document
  return { collection with documents := collection.documents ++ [document] }

/-- The collection with all of some documents stored one after the other. -/
def insertAll (collection : Collection) :
    List Document → Except StoreError Collection
  | [] => .ok collection
  | document :: rest => do
    let next ← collection.insert document
    next.insertAll rest

/-- Keep only the first documents. -/
def cut (collection : Collection) (kept : Nat) : Collection :=
  { collection with documents := collection.documents.take kept }

/-- Store documents one after the other in place.  When one is refused, those
stored before it are taken back: only the first `kept` documents stay. -/
def insertEach (kept : Nat) (collection : Collection) :
    List Document → Except StoreError Unit × Collection
  | [] => (.ok (), collection)
  | document :: rest =>
    match collection.insert document with
    | .ok next => next.insertEach kept rest
    | .error failure => (.error failure, collection.cut kept)

/-- The marks of the documents that an operation concerns: those that meet a
filter, or the first of them only. -/
def select (collection : Collection) (filter : Document) (all : Bool) :
    Except StoreError (List Marked) := do
  let marked ← Marked.ofFilter filter collection.documents
  return if all then marked else Marked.firstOnly marked

/-- Amend the documents with a mark.  All of them are amended before any
is compared with the others. -/
def amend (collection : Collection) (marked : List Marked)
    (update : Document) : Except StoreError (Collection × UpdateReport) := do
  let amended ← Amended.ofMarked update marked
  Amended.check collection.indexes [] amended
  return ({ collection with documents := amended.map Amended.document },
    Amended.report amended)

/-- Update the documents that meet a filter, or the first of them only.  When
there is none, a newcomer is stored if there is one. -/
def update (collection : Collection) (filter update : Document) (all : Bool)
    (newcomer : Option (Except StoreError Document)) :
    Except StoreError (Collection × UpdateReport) := do
  let marked ← collection.select filter all
  if marked.any Marked.hit then
    collection.amend marked update
  else
    match newcomer with
    | none => return (collection, ⟨0, 0⟩)
    | some made =>
      let document ← made
      let next ← collection.insert document
      return (next, ⟨0, 0⟩)

/-- Remove the documents that meet a filter, or the first of them only. -/
def remove (collection : Collection) (filter : Document) (all : Bool) :
    Except StoreError Collection := do
  let marked ← collection.select filter all
  return { collection with documents := Marked.misses marked }

/-- An index has this name. -/
def hasIndex (collection : Collection) (name : String) : Bool :=
  collection.indexes.any fun index => index.name == name

/-- Add an index unless there is one of its name. -/
def addIndex (collection : Collection) (index : Index) :
    Except StoreError Collection :=
  if collection.hasIndex index.name then
    .ok collection
  else if index.unique && !index.separates collection.documents then
    .error index.duplicateKey
  else
    .ok { collection with indexes := collection.indexes ++ [index] }

/-- Keep only the indexes whose name meets a condition. -/
def keepIndexes (collection : Collection) (keep : String → Bool) :
    Collection :=
  { collection with
    indexes := collection.indexes.filter fun index => keep index.name }

theorem documents_of_insert {collection next : Collection}
    {document : Document}
    (stored : collection.insert document = .ok next) :
    next.documents = collection.documents ++ [document] := by
  simp only [insert, bind, Except.bind] at stored
  split at stored
  · exact absurd stored (by simp)
  · simp only [pure, Except.pure, Except.ok.injEq] at stored
    simp [← stored]

theorem indexes_of_insert {collection next : Collection}
    {document : Document}
    (stored : collection.insert document = .ok next) :
    next.indexes = collection.indexes := by
  simp only [insert, bind, Except.bind] at stored
  split at stored
  · exact absurd stored (by simp)
  · simp only [pure, Except.pure, Except.ok.injEq] at stored
    simp [← stored]

@[simp]
theorem documents_keepIndexes (collection : Collection)
    (keep : String → Bool) :
    (collection.keepIndexes keep).documents = collection.documents := rfl

@[simp]
theorem insertAll_nil (collection : Collection) :
    collection.insertAll [] = .ok collection := rfl

theorem insertAll_cons (collection : Collection) (document : Document)
    (rest : List Document) :
    collection.insertAll (document :: rest) =
      (collection.insert document).bind fun next => next.insertAll rest := rfl

/-- Documents behind those that are kept do not matter to a cut. -/
theorem cut_of_insert {collection next : Collection} {document : Document}
    {kept : Nat} (within : kept ≤ collection.documents.length)
    (stored : collection.insert document = .ok next) :
    next.cut kept = collection.cut kept := by
  simp [cut, documents_of_insert stored, indexes_of_insert stored,
    List.take_append_of_le_length within]

/-- The documents are stored in place as a whole or not at all: at every step
those to be kept still stand before the ones stored since. -/
theorem insertEach_eq {collection : Collection} {kept : Nat}
    (within : kept ≤ collection.documents.length)
    (documents : List Document) :
    collection.insertEach kept documents =
      match collection.insertAll documents with
      | .ok next => (.ok (), next)
      | .error failure => (.error failure, collection.cut kept) := by
  induction documents generalizing collection with
  | nil => rfl
  | cons document rest ih =>
    rw [insertAll_cons]
    unfold insertEach
    cases stored : collection.insert document with
    | error failure => rfl
    | ok next =>
      have further : kept ≤ next.documents.length := by
        simp [documents_of_insert stored]
        omega
      simp only [Except.bind]
      rw [ih further, cut_of_insert within stored]

@[simp]
theorem cut_length (collection : Collection) :
    collection.cut collection.documents.length = collection := by
  simp [cut]

end Collection

end DocQuery
