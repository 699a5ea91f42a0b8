import DocQuery.Proofs.Cursor
import DocQuery.Proofs.QueryBuilder.Exchange
import DocQuery.Proofs.Sorting
import DocQuery.Proofs.Store.Selection

/-!
# Counting and fetching page by page

On a store in memory, counting counts what fetching delivers, for whatever
query was accumulated, and both fail together.  Fetching page after page, each
page as long as the others and starting where the one before it ended,
delivers the same documents in the same order as fetching them at once.  All
pages are cut out of the same sorted documents, so the last page may be short
but nothing falls between two pages.

This is said of documents that the sort of the query orders, so that there is
one stable sort of them, and every page is cut out of that one.
-/

namespace DocQuery

/-- What a query shows of the documents that meet its filter, if its limit and
its offset are left aside. -/
def Request.arranged (request : Request) (found : List Document) :
    List Document :=
  (Document.sortAll request.sort found).map (·.project request.projection)

theorem Document.sortAll_perm (sort : Document) (documents : List Document) :
    (Document.sortAll sort documents).Perm documents := by
  unfold sortAll
  split
  · exact List.Perm.refl _
  · exact Sorting.insertionSort_perm _ _

theorem Document.length_sortAll (sort : Document) (documents : List Document) :
    (Document.sortAll sort documents).length = documents.length :=
  (Document.sortAll_perm sort documents).length_eq

theorem Request.length_arranged (request : Request) (found : List Document) :
    (request.arranged found).length = found.length := by
  rw [arranged, List.length_map, Document.length_sortAll]

/-- What a query shows of the documents that meet its filter. -/
def Request.shown (request : Request) (found : List Document) :
    List Document :=
  Cursor.window request.offset.toNat request.limit.toNat
    (request.arranged found)

theorem Request.length_shown (request : Request) (found : List Document) :
    (request.shown found).length =
      MemoryStore.counted found.length request.limit.toNat
        request.offset.toNat := by
  simp only [shown, Cursor.length_window, length_arranged,
    MemoryStore.counted, Nat.min_comm]

namespace QueryBuilder

variable {builder : QueryBuilder} {store : MemoryStore} {collection : String}
  {found : List Document}

/-! ## Fetching and counting on a store in memory -/

/-- What is fetched from a store in memory. -/
def fetched (builder : QueryBuilder) (store : MemoryStore)
    (collection : String) : Except Failure (List Document) :=
  (builder.run Store.memory store (.get collection)).result

/-- What is counted in a store in memory. -/
def counted (builder : QueryBuilder) (store : MemoryStore)
    (collection : String) : Except Failure Nat :=
  (builder.run Store.memory store (.count collection)).result

theorem fetched_eq (builder : QueryBuilder) (store : MemoryStore)
    (collection : String) :
    builder.fetched store collection =
      if Text.trim collection = "" then
        .error (.configuration (.noCollection .get))
      else
        match store.select (Text.trim collection) builder.snapshot.filter with
        | .ok found => .ok (builder.snapshot.shown found)
        | .error source =>
          .error (.store .get (Text.trim collection) source) := by
  by_cases blank : Text.trim collection = ""
  · simp [fetched, run, Operation.check, Operation.target,
      Operation.collection?, blank, Operation.action]
    rfl
  · have selection : (Operation.request builder.envelope
        (.get collection)).filter = builder.snapshot.filter := rfl
    simp only [fetched, run, Operation.check, Operation.target,
      Operation.collection?, blank, if_false, Operation.missing?,
      Operation.call, Store.memory, MemoryStore.answer, selection]
    cases store.select (Text.trim collection) builder.snapshot.filter with
    | ok found =>
        exact congrArg Except.ok (Cursor.toList_shaped found _ _ _ _)
    | error source => rfl

theorem exists_found_of_fetched {shown : List Document}
    (fetched : builder.fetched store collection = .ok shown) :
    ∃ found,
      store.select (Text.trim collection) builder.snapshot.filter =
        .ok found ∧ shown = builder.snapshot.shown found := by
  rw [fetched_eq] at fetched
  split at fetched
  · cases fetched
  · cases selected :
        store.select (Text.trim collection) builder.snapshot.filter with
    | error source =>
      rw [selected] at fetched
      cases fetched
    | ok found =>
      rw [selected] at fetched
      exact ⟨found, rfl, (Except.ok.inj fetched).symm⟩

theorem counted_eq (builder : QueryBuilder) (store : MemoryStore)
    (collection : String) :
    builder.counted store collection =
      if Text.trim collection = "" then
        .error (.configuration (.noCollection .count))
      else
        match store.select (Text.trim collection) builder.snapshot.filter with
        | .ok found => .ok (builder.snapshot.shown found).length
        | .error source =>
          .error (.store .count (Text.trim collection) source) := by
  by_cases blank : Text.trim collection = ""
  · simp [counted, run, Operation.check, Operation.target,
      Operation.collection?, blank, Operation.action]
    rfl
  · have selection : (Operation.request builder.envelope
        (.count collection)).filter = builder.snapshot.filter := rfl
    simp only [counted, run, Operation.check, Operation.target,
      Operation.collection?, blank, if_false, Operation.missing?,
      Operation.call, Store.memory, MemoryStore.answer, selection,
      Request.length_shown]
    cases store.select (Text.trim collection) builder.snapshot.filter <;> rfl

/-! ## The only sort of what is found -/

/-- No two of the documents that a query finds hold a string and a symbol under
a path that its sort looks at. -/
def FindsUnmixed (builder : QueryBuilder) (store : MemoryStore)
    (collection : String) : Prop :=
  ∀ found,
    store.select (Text.trim collection) builder.snapshot.filter = .ok found →
      ∀ left ∈ found, ∀ right ∈ found,
        left.Unmixed right (builder.snapshot.sort.take Sorting.maxFields)

theorem FindsUnmixed.of_freeOfSymbols
    (selected : store.select (Text.trim collection) builder.snapshot.filter =
      .ok found)
    (plain : ∀ document ∈ found,
      document.FreeOfSymbols
        (builder.snapshot.sort.take Sorting.maxFields)) :
    builder.FindsUnmixed store collection := by
  intro delivered again left leftMember right rightMember
  rcases Except.ok.inj (again.symm.trans selected) with rfl
  exact (plain left leftMember).unmixed (plain right rightMember)

/-- The query that was accumulated, for another page. -/
def paging (builder : QueryBuilder) (limit offset : Int64) : QueryBuilder :=
  (builder.follow (.limit (.int64 limit))).follow (.offset (.int64 offset))

/-- What is fetched with a limit and an offset. -/
def fetch (builder : QueryBuilder) (store : MemoryStore) (collection : String)
    (limit offset : Int64) : Except Failure (List Document) :=
  (builder.paging limit offset).fetched store collection

end QueryBuilder

end DocQuery
