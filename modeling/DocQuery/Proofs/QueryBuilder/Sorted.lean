import DocQuery.Proofs.Clause.Sorts
import DocQuery.Proofs.QueryBuilder.Paging
import DocQuery.Proofs.Sorting.Lexicographic

/-!
# Documents in the order of a query

What a query fetches stands in the lexicographic order of the fields that were
named to sort by, as far as a sort looks at them: eight fields, each in its
direction.  A page is cut out of the documents in this order.
-/

namespace DocQuery

open Sorting (LexBefore Lexicographic Precedes Ties maxFields)

/-- What is shown of found documents is a page of them, and they stand in the
lexicographic order of the fields that the sort looks at. -/
def Request.ShowsSorted (request : Request) (found shown : List Document) :
    Prop :=
  ∃ arranged : List Document,
    arranged.Perm found ∧
      arranged.Pairwise (fun earlier later =>
        ¬ LexBefore later earlier (request.sort.take maxFields)) ∧
      shown = Cursor.window request.offset.toNat request.limit.toNat
        (arranged.map (·.project request.projection))

theorem Request.showsSorted_shown (request : Request) {found : List Document}
    (unmixed : ∀ left ∈ found, ∀ right ∈ found,
      left.Unmixed right (request.sort.take maxFields)) :
    request.ShowsSorted found (request.shown found) :=
  ⟨Document.sortAll request.sort found, Document.sortAll_perm _ _,
    Sorting.pairwise_sortAll unmixed, rfl⟩

namespace QueryBuilder

theorem envelope_foldl_follow (builder : QueryBuilder)
    (directives : List Directive) :
    (directives.foldl follow builder).envelope =
      builder.envelope.followAll directives :=
  (List.foldl_hom envelope fun _ _ => rfl).symm

/-- Two documents are compared in the lexicographic order of the first eight
entries of a sort.  So what a query fetches stands in that order of the fields
that it was told to sort by, each at the place where it was named first and in
the direction that it was given last, unless two documents found hold a string
and a symbol under one of these fields. -/
theorem lexicographic_and_fetched :
    (∀ sort left right : Document,
      Lexicographic (sort.take maxFields) left right
        (left.compareBy right sort)) ∧
      ∀ (builder : QueryBuilder) (directives : List Directive)
        (store : MemoryStore) (collection : String) (shown : List Document),
        builder.envelope.sorts = [] →
          (directives.foldl follow builder).fetched store collection =
            .ok shown →
          let request := (directives.foldl follow builder).snapshot
          request.sort =
              Document.lastGiven (directives.flatMap Directive.sortings) ∧
            ∃ found,
              store.select (Text.trim collection) request.filter =
                .ok found ∧
              ((∀ left ∈ found, ∀ right ∈ found,
                left.Unmixed right (request.sort.take maxFields)) →
                  request.ShowsSorted found shown) := by
  refine ⟨Sorting.lexicographic_compare, ?_⟩
  intro builder directives store collection shown unsorted fetched
  rcases exists_found_of_fetched fetched with ⟨found, selected, rfl⟩
  refine ⟨?_, found, selected, Request.showsSorted_shown _⟩
  have told := Envelope.sort_followAll unsorted directives
  rwa [← envelope_foldl_follow] at told

/-- Three documents that tie by twos in one field. -/
def tiedStore : MemoryStore :=
  (MemoryStore.empty "sample" default).run
    [.insert "c" [("_id", .ofInt 1), ("a", .ofInt 2), ("b", .ofInt 1)] [],
      .insert "c" [("_id", .ofInt 2), ("a", .ofInt 1), ("b", .ofInt 1)] [],
      .insert "c" [("_id", .ofInt 3), ("a", .ofInt 2), ("b", .ofInt 2)] []]

/-- Of documents that tie by the first field the second one decides, in its own
direction. -/
theorem lexicographic_and_fetched_tied :
    let told : List Directive :=
      [.orderByField "a" (.string "desc"), .orderByField "b" (.ofInt 1)]
    let shown : List Document :=
      [[("_id", .ofInt 1), ("a", .ofInt 2), ("b", .ofInt 1)],
        [("_id", .ofInt 3), ("a", .ofInt 2), ("b", .ofInt 2)],
        [("_id", .ofInt 2), ("a", .ofInt 1), ("b", .ofInt 1)]]
    (told.foldl follow new).fetched tiedStore "c" = .ok shown ∧
      ∃ found, (told.foldl follow new).snapshot.ShowsSorted found shown := by
  intro told shown
  have fetched : (told.foldl follow new).fetched tiedStore "c" = .ok shown :=
    rfl
  refine ⟨fetched, ?_⟩
  rcases lexicographic_and_fetched.2 new told tiedStore "c" shown rfl fetched
    with ⟨-, found, selected, sorted⟩
  have all : tiedStore.select (Text.trim "c")
      (told.foldl follow new).snapshot.filter =
        .ok (tiedStore.documents "c") := rfl
  have unmixed : (told.foldl follow new).FindsUnmixed tiedStore "c" :=
    .of_freeOfSymbols all (by decide +kernel)
  exact ⟨found, sorted (unmixed found selected)⟩

end QueryBuilder

end DocQuery
