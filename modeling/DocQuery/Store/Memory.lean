import DocQuery.Settings
import DocQuery.Store.Collection
import DocQuery.Store.Command
import DocQuery.Trace

/-!
# The store in memory

A database of named collections.  A collection comes into being when something
is first written to it, even if the write fails; a write that fails leaves the
documents and indexes of every collection as they were.
-/

namespace DocQuery

/-- A database in memory. -/
structure MemoryStore where
  /-- The name of the database. -/
  database : String
  /-- The collections by name. -/
  collections : List (String × Collection)
  /-- The identifiers for documents that come without one. -/
  supply : ObjectId.Supply
  deriving Inhabited

/-- A document with an identifier in its first entry or wherever it had one,
and that identifier. -/
structure Identified where
  document : Document
  id : Value
  deriving Inhabited

namespace Identified

/-- Give a document an identifier unless it has one. -/
def ofDocument (supply : ObjectId.Supply) (document : Document) :
    Identified × ObjectId.Supply :=
  match document.get? "_id" with
  | some id => (⟨document, id⟩, supply)
  | none =>
    let (fresh, rest) := supply.take
    (⟨("_id", .objectId fresh) :: document, .objectId fresh⟩, rest)

/-- Give all documents identifiers. -/
def ofDocuments (supply : ObjectId.Supply) :
    List Document → List Identified × ObjectId.Supply
  | [] => ([], supply)
  | document :: rest =>
    let (identified, next) := ofDocument supply document
    let (others, last) := ofDocuments next rest
    (identified :: others, last)

end Identified

namespace MemoryStore

open Store (Call Reply)

/-- A database without collections. -/
def empty (database : String) (supply : ObjectId.Supply) : MemoryStore :=
  ⟨database, [], supply⟩

/-- The database that settings name, without collections. -/
def connect (settings : Settings) (supply : ObjectId.Supply) :
    Except Fault MemoryStore :=
  settings.validate.map fun valid => empty valid.database supply

/-- The collection with a name. -/
def get? (store : MemoryStore) (name : String) : Option Collection :=
  store.collections.lookup name

/-- Put a collection at the place of its name, or after the others. -/
def putCollection (name : String) (collection : Collection) :
    List (String × Collection) → List (String × Collection)
  | [] => [(name, collection)]
  | (known, old) :: rest =>
    if known = name then (known, collection) :: rest
    else (known, old) :: putCollection name collection rest

/-- Give a name a collection. -/
def put (store : MemoryStore) (name : String) (collection : Collection) :
    MemoryStore :=
  { store with
    collections := putCollection name collection store.collections }

theorem lookup_putCollection_self (name : String) (collection : Collection)
    (collections : List (String × Collection)) :
    (putCollection name collection collections).lookup name =
      some collection := by
  induction collections with
  | nil => simp [putCollection]
  | cons entry rest ih =>
    obtain ⟨known, old⟩ := entry
    by_cases same : known = name
    · simp [putCollection, same]
    · have other : (name == known) = false := by simp [Ne.symm same]
      simp [putCollection, same, List.lookup_cons, other, ih]

theorem lookup_putCollection_ne {name other : String}
    (different : other ≠ name) (collection : Collection)
    (collections : List (String × Collection)) :
    (putCollection name collection collections).lookup other =
      collections.lookup other := by
  have unequal : (other == name) = false := by simp [different]
  induction collections with
  | nil => simp [putCollection, List.lookup_cons, unequal]
  | cons entry rest ih =>
    obtain ⟨known, old⟩ := entry
    by_cases same : known = name
    · subst same
      simp [putCollection, List.lookup_cons, unequal]
    · simp [putCollection, same, List.lookup_cons, ih]

@[simp]
theorem get?_put_self (store : MemoryStore) (name : String)
    (collection : Collection) :
    (store.put name collection).get? name = some collection :=
  lookup_putCollection_self name collection store.collections

theorem get?_put_ne (store : MemoryStore) {name other : String}
    (different : other ≠ name) (collection : Collection) :
    (store.put name collection).get? other = store.get? other :=
  lookup_putCollection_ne different collection store.collections

/-- The documents of a collection; none if there is no such collection. -/
def documents (store : MemoryStore) (name : String) : List Document :=
  match store.get? name with
  | some collection => collection.documents
  | none => []

/-- The names of the collections, sorted. -/
def names (store : MemoryStore) : List String :=
  (store.collections.map Prod.fst).mergeSort

/-- The documents of a collection that meet a filter. -/
def select (store : MemoryStore) (name : String) (filter : Document) :
    Except StoreError (List Document) :=
  match store.get? name with
  | some collection => collection.find filter
  | none => .ok []

/-- Write to a collection, which is there afterwards in any case. -/
def write {Answer : Type} (store : MemoryStore) (name : String)
    (change : Collection → Except StoreError (Collection × Answer)) :
    Reply MemoryStore Answer :=
  let collection := (store.get? name).getD .empty
  match change collection with
  | .ok (next, answer) => ⟨.ok answer, store.put name next, []⟩
  | .error failure => ⟨.error failure, store.put name collection, []⟩

/-- A write to one collection leaves the others as they were. -/
theorem get?_write_ne {Answer : Type} (store : MemoryStore)
    {name other : String} (different : other ≠ name)
    (change : Collection → Except StoreError (Collection × Answer)) :
    (store.write name change).state.get? other = store.get? other := by
  simp only [write]
  split <;> exact get?_put_ne store different _

/-- Change a collection if there is one. -/
def modify {Answer : Type} (store : MemoryStore) (name : String)
    (absent : Answer)
    (change : Collection → Except StoreError (Collection × Answer)) :
    Reply MemoryStore Answer :=
  match store.get? name with
  | none => ⟨.ok absent, store, []⟩
  | some collection =>
    match change collection with
    | .ok (next, answer) => ⟨.ok answer, store.put name next, []⟩
    | .error failure => ⟨.error failure, store, []⟩

/-- Whether an option is switched on. -/
def isSet (options : Document) (name : String) : Bool :=
  match options.get? name with
  | some (.boolean flag) => flag
  | _ => false

/-- How many of `total` documents are left after the first `skip`, at most
`limit`; zero for no bound. -/
def counted (total limit skip : Nat) : Nat :=
  if limit = 0 then total - skip else min (total - skip) limit

/-- Store a document. -/
def insert (store : MemoryStore) (name : String) (document : Document) :
    Reply MemoryStore (Option Value) :=
  let (identified, supply) := Identified.ofDocument store.supply document
  let reply := { store with supply := supply }.write name fun collection => do
    let next ← collection.insert identified.document
    return (next, some identified.id)
  match reply.result with
  | .ok _ => { reply with lines := [Trace.insertLine name identified.id] }
  | .error _ => reply

/-- What is said of a batch of documents that was stored. -/
def batchAnswer (count : Nat) : Document :=
  [("ok", .ofInt 1), ("n", .int64 (Int64.ofInt count))]

/-- Store all documents or none. -/
def insertAll (store : MemoryStore) (name : String)
    (documents : List Document) : Reply MemoryStore Document :=
  let (identified, supply) := Identified.ofDocuments store.supply documents
  let collection := (store.get? name).getD .empty
  let (result, next) := collection.insertEach collection.documents.length
    (identified.map Identified.document)
  ⟨result.map fun _ => batchAnswer documents.length,
    { store with supply := supply }.put name next, []⟩

/-- Storing a batch in place amounts to a write that stores it as a whole. -/
theorem insertAll_eq_write (store : MemoryStore) (name : String)
    (documents : List Document) :
    store.insertAll name documents =
      { store with
          supply := (Identified.ofDocuments store.supply documents).2
        }.write name fun collection => do
        let next ← collection.insertAll
          ((Identified.ofDocuments store.supply documents).1.map
            Identified.document)
        return (next, batchAnswer documents.length) := by
  have found (supply : ObjectId.Supply) :
      ({ store with supply := supply }.get? name) = store.get? name := rfl
  simp only [insertAll, write, found,
    Collection.insertEach_eq (Nat.le_refl _), Collection.cut_length]
  cases ((store.get? name).getD .empty).insertAll
    ((Identified.ofDocuments store.supply documents).1.map
      Identified.document) <;> rfl

/-- The document that an update makes when it finds none: the literals of the
filter, updated. -/
def seed (filter : Document) : Document :=
  filter.filter fun (name, value) =>
    !isOperatorName name && value.asDocument?.isNone

/-- The document to be stored when an update finds none, if the options ask
for it. -/
def newcomer (supply : ObjectId.Supply) (filter update options : Document) :
    Option (Except StoreError Document) × ObjectId.Supply :=
  if isSet options "upsert" then
    match Update.apply (seed filter) update with
    | .error failure => (some (.error failure), supply)
    | .ok outcome =>
      let (identified, rest) := Identified.ofDocument supply outcome.document
      (some (.ok identified.document), rest)
  else
    (none, supply)

/-- Update the documents that meet a filter, or the first of them.  When there
is none and the options ask for it, a new document is stored. -/
def update (store : MemoryStore) (name : String)
    (filter update options : Document) : Reply MemoryStore UpdateReport :=
  let (newcomer, supply) := newcomer store.supply filter update options
  { store with supply := supply }.write name fun collection =>
    collection.update filter update (isSet options "multiple") newcomer

/-- Remove the documents that meet a filter, or the first of them. -/
def remove (store : MemoryStore) (name : String)
    (filter options : Document) : Reply MemoryStore Bool :=
  store.modify name true fun collection => do
    let next ← collection.remove filter (!isSet options "justOne")
    return (next, true)

/-- The index that keys and options ask for. -/
def requestedIndex (keys options : Document) : Index :=
  let name := match options.get? "name" with
    | some (.string name) => name
    | _ => Index.nameOf keys
  ⟨name, keys, isSet options "unique"⟩

/-- Add an index unless there is one of its name. -/
def ensureIndex (store : MemoryStore) (name : String)
    (keys options : Document) : Reply MemoryStore Bool :=
  if keys.isEmpty then
    ⟨.error (.invalidOperation .noIndexKeys), store, []⟩
  else
    store.write name fun collection => do
      let next ← collection.addIndex (requestedIndex keys options)
      return (next, true)

/-- Remove the index that has the name made from the keys. -/
def deleteIndex (store : MemoryStore) (name : String) (keys : Document) :
    Reply MemoryStore Bool :=
  if keys.keys = ["_id"] then
    ⟨.error (.rejected .identityIndexDropped), store, []⟩
  else
    store.modify name false fun collection =>
      let removed := Index.nameOf keys
      .ok (collection.keepIndexes (· != removed),
        collection.hasIndex removed)

/-- Remove all indexes but the one that every collection has. -/
def deleteIndexes (store : MemoryStore) (name : String) :
    Reply MemoryStore Unit :=
  store.modify name () fun collection =>
    .ok (collection.keepIndexes (· == Index.identityName), ())

/-- What is said about the indexes of a collection. -/
def indexInfo (store : MemoryStore) (name : String) : List Document :=
  match store.get? name with
  | some collection => collection.indexes.map Index.describe
  | none => []

/-- Remove a collection; says whether there was one. -/
def dropCollection (store : MemoryStore) (name : String) :
    Bool × MemoryStore :=
  ((store.get? name).isSome,
    { store with
      collections := store.collections.filter fun (known, _) =>
        known != name })

/-- Append the mark of success to the answer of a command. -/
def acknowledged (answer : Document) : Document :=
  answer ++ [("ok", .double (.ofInt 1))]

/-- The answer that lists the collections. -/
def collectionList (store : MemoryStore) : Document :=
  let batch := store.names.map fun name =>
    Value.document [("name", .string name), ("type", .string "collection")]
  acknowledged [("cursor", .document
    [("firstBatch", .array batch),
      ("ns", .string (store.database ++ ".$cmd.listCollections"))])]

/-- Carry a command out. -/
def perform (store : MemoryStore) :
    Command → Except StoreError Document × MemoryStore
  | .ping => (.ok (acknowledged []), store)
  | .count name filter =>
    ((store.select name filter).map fun found =>
      acknowledged [("n", .int64 (Int64.ofInt found.length))], store)
  | .drop name =>
    match store.dropCollection name with
    | (true, rest) =>
      (.ok (acknowledged [("ns", .string (store.database ++ "." ++ name))]),
        rest)
    | (false, rest) => (.error (.command (.collectionNotFound name)), rest)
  | .listCollections => (.ok store.collectionList, store)
  | .dropDatabase =>
    (.ok (acknowledged [("dropped", .string store.database)]),
      { store with collections := [] })

/-- Carry out the command that a document expresses. -/
def runCommand (store : MemoryStore) (command : Document) :
    Reply MemoryStore Document :=
  match Command.ofDocument command with
  | .error failure => ⟨.error (.command failure), store, []⟩
  | .ok command =>
    let (result, next) := store.perform command
    ⟨result, next, []⟩

/-- Answer a call. -/
def answer (store : MemoryStore) :
    (call : Call) → Reply MemoryStore call.Answer
  | .find name filter projection =>
    ⟨(store.select name filter).map fun found =>
      (Cursor.ofDocuments found).projected projection, store, []⟩
  | .count name filter limit skip =>
    ⟨(store.select name filter).map fun found =>
      counted found.length limit skip, store, []⟩
  | .insert name document _ => store.insert name document
  | .batchInsert name documents _ => store.insertAll name documents
  | .update name filter change options =>
    store.update name filter change options
  | .remove name filter options => store.remove name filter options
  | .ensureIndex name keys options => store.ensureIndex name keys options
  | .deleteIndex name keys => store.deleteIndex name keys
  | .deleteIndexes name => store.deleteIndexes name
  | .indexInfo name => ⟨.ok (store.indexInfo name), store, []⟩
  | .dropCollection name =>
    let (there, next) := store.dropCollection name
    ⟨.ok there, next, []⟩
  | .runCommand command => store.runCommand command

end MemoryStore

/-- Databases in memory as a store. -/
def Store.memory : Store MemoryStore := ⟨MemoryStore.answer⟩

end DocQuery
