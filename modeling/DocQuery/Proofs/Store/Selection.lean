import DocQuery.Proofs.Store.Soundness

/-!
# One filter, one selection

Every operation on a collection that takes a filter concerns the documents
that a search with this filter delivers: counting counts them, an update
reports them, a removal takes them away and leaves the others in order.  An
operation on one document concerns the first of them.  If the filter cannot be
evaluated, all operations fail with the failure of the search.

The operations mark documents and never compare them, so a document that is
stored twice is told apart from its copy by its position.
-/

namespace DocQuery

open Store (Call Reply)

/-- A filter can be evaluated on a document and holds of it. -/
def Document.satisfies (document filter : Document) : Bool :=
  match document.meets filter with
  | .ok hit => hit
  | .error _ => false

namespace Marked

/-- The marks that a filter leaves are those of the documents that satisfy
it. -/
theorem eq_map_of_ofFilter {filter : Document} {documents : List Document}
    {marked : List Marked}
    (evaluated : ofFilter filter documents = .ok marked) :
    marked = documents.map fun document =>
      ⟨document, document.satisfies filter⟩ := by
  induction documents generalizing marked with
  | nil => exact (Except.ok.inj evaluated).symm
  | cons document rest ih =>
      simp only [ofFilter, bind, bind_eq_ok_iff] at evaluated
      rcases evaluated with ⟨hit, met, others, othersMarked, made⟩
      rcases Except.ok.inj made with rfl
      have here : document.satisfies filter = hit := by
        rw [Document.satisfies, met]
      rw [List.map_cons, here, ← ih othersMarked]

/-- Marks are left only where the filter can be evaluated on every document. -/
theorem meets_of_ofFilter {filter : Document} {documents : List Document}
    {marked : List Marked}
    (evaluated : ofFilter filter documents = .ok marked) :
    ∀ document ∈ documents,
      document.meets filter = .ok (document.satisfies filter) := by
  induction documents generalizing marked with
  | nil => simp
  | cons first rest ih =>
    simp only [ofFilter, bind, bind_eq_ok_iff] at evaluated
    rcases evaluated with ⟨hit, met, others, othersMarked, -⟩
    intro document member
    rcases List.mem_cons.mp member with rfl | later
    · rw [Document.satisfies, met]
    · exact ih othersMarked document later

/-- Where the filter can be evaluated on every document, the marks are left. -/
theorem ofFilter_of_meets {filter : Document} {documents : List Document}
    {met : Document → Bool}
    (evaluated : ∀ document ∈ documents,
      document.meets filter = .ok (met document)) :
    ofFilter filter documents =
      .ok (documents.map fun document => ⟨document, met document⟩) := by
  induction documents with
  | nil => rfl
  | cons document rest ih =>
      have later := ih fun other member =>
        evaluated other (List.mem_cons_of_mem _ member)
      simp only [ofFilter, bind, Except.bind,
        evaluated document List.mem_cons_self, later]
      rfl

/-- Documents without marks. -/
def unmarked (documents : List Document) : List Marked :=
  documents.map fun document => ⟨document, false⟩

theorem any_hit_unmarked (documents : List Document) :
    (unmarked documents).any hit = false := by
  simp [unmarked]

theorem ofFilter_of_unmet {filter : Document} {documents : List Document}
    (unmet : ∀ document ∈ documents, document.meets filter = .ok false)
    (rest : List Document) :
    ofFilter filter (documents ++ rest) =
      (ofFilter filter rest).map (unmarked documents ++ ·) := by
  induction documents with
  | nil =>
      cases marks : ofFilter filter rest <;> simp [marks, unmarked, Except.map]
  | cons document others ih =>
      have later := ih fun other member =>
        unmet other (List.mem_cons_of_mem _ member)
      simp only [List.cons_append, ofFilter, bind, Except.bind,
        unmet document List.mem_cons_self, later]
      cases ofFilter filter rest <;> rfl

theorem hits_mark (hit : Document → Bool) (documents : List Document) :
    hits (documents.map fun document => ⟨document, hit document⟩) =
      documents.filter hit := by
  simp [hits, List.filter_map, Function.comp_def]

theorem misses_mark (hit : Document → Bool) (documents : List Document) :
    misses (documents.map fun document => ⟨document, hit document⟩) =
      documents.filter fun document => !hit document := by
  simp [misses, List.filter_map, Function.comp_def]

theorem hits_firstOnly (marked : List Marked) :
    hits (firstOnly marked) = (hits marked).take 1 := by
  induction marked with
  | nil => rfl
  | cons one rest ih =>
      cases hit : one.hit with
      | true => simp [hits, firstOnly, hit]
      | false =>
          simp only [hits] at ih
          simp [hits, firstOnly, hit, ih]

theorem firstOnly_unmarked (documents : List Document)
    (rest : List Marked) :
    firstOnly (unmarked documents ++ rest) =
      unmarked documents ++ firstOnly rest := by
  induction documents with
  | nil => rfl
  | cons document others ih =>
      simpa [unmarked, firstOnly] using ih

theorem length_hits (marked : List Marked) :
    (hits marked).length = marked.countP hit := by
  rw [hits, List.length_map, ← List.countP_eq_length_filter]

theorem hits_eq_nil_iff {marked : List Marked} :
    hits marked = [] ↔ marked.any hit = false := by
  simp [hits]

/-- Without the first marked document all others stay. -/
theorem misses_firstOnly_mark (hit : Document → Bool)
    (documents : List Document) :
    misses (firstOnly (documents.map fun document =>
      ⟨document, hit document⟩)) = documents.eraseP hit := by
  induction documents with
  | nil => rfl
  | cons document rest ih =>
      cases here : hit document with
      | true =>
          simp [misses, firstOnly, here, List.filter_map, Function.comp_def]
      | false =>
          simp only [misses] at ih
          simp [misses, firstOnly, here, ih]

end Marked

/-- Amending documents keeps their marks. -/
theorem Amended.map_hit_of_ofMarked {update : Document}
    {marked : List Marked} {amended : List Amended}
    (made : ofMarked update marked = .ok amended) :
    amended.map hit = marked.map Marked.hit := by
  induction marked generalizing amended with
  | nil =>
      rcases Except.ok.inj made with rfl
      rfl
  | cons one rest ih =>
      cases mark : one.hit with
      | true =>
          rw [ofMarked_cons_of_hit mark, bind_eq_ok_iff] at made
          rcases made with ⟨outcome, -, made⟩
          rcases map_eq_ok_iff.mp made with ⟨others, othersMade, rfl⟩
          simp [mark, ih othersMade]
      | false =>
          rw [ofMarked_cons_of_miss mark] at made
          rcases map_eq_ok_iff.mp made with ⟨others, othersMade, rfl⟩
          simp [mark, ih othersMade]

namespace Collection

variable {collection next : Collection} {filter update : Document}
  {all : Bool} {newcomer : Option (Except StoreError Document)}
  {report : UpdateReport}

/-- An update reports as many documents as are marked for it. -/
theorem matched_of_update
    (done : collection.update filter update all newcomer =
      .ok (next, report)) :
    ∃ marked, collection.select filter all = .ok marked ∧
      report.matched = (Marked.hits marked).length := by
  simp only [Collection.update, bind, bind_eq_ok_iff] at done
  rcases done with ⟨marked, selected, done⟩
  refine ⟨marked, selected, ?_⟩
  cases concerned : marked.any Marked.hit with
  | true =>
      simp only [concerned, if_true, amend, bind, bind_eq_ok_iff] at done
      rcases done with ⟨amended, made, -, -, done⟩
      rcases Prod.mk.inj (Except.ok.inj done) with ⟨-, rfl⟩
      calc amended.countP Amended.hit
          = (amended.map Amended.hit).countP id := by
            rw [List.countP_map]
            rfl
        _ = (marked.map Marked.hit).countP id := by
            rw [Amended.map_hit_of_ofMarked made]
        _ = marked.countP Marked.hit := by
            rw [List.countP_map]
            rfl
        _ = (Marked.hits marked).length := (Marked.length_hits marked).symm
  | false =>
      simp only [concerned, Bool.false_eq_true, if_false] at done
      rw [Marked.hits_eq_nil_iff.mpr concerned]
      rcases newcomer with _ | made
      · rcases Prod.mk.inj (Except.ok.inj done) with ⟨-, rfl⟩
        rfl
      · simp only [bind_eq_ok_iff] at done
        rcases done with ⟨document, -, after, -, done⟩
        rcases Prod.mk.inj (Except.ok.inj done) with ⟨-, rfl⟩
        rfl

section

variable {found : List Document} {failure : StoreError}

/-- The documents of a collection, marked by whether they satisfy a filter. -/
def mark (collection : Collection) (filter : Document) : List Marked :=
  collection.documents.map fun document =>
    ⟨document, document.satisfies filter⟩

/-- A search that succeeds delivers the documents that satisfy its filter, and
the operations on these documents mark the same ones. -/
theorem find_eq_ok (searched : collection.find filter = .ok found) :
    found = collection.documents.filter (·.satisfies filter) ∧
      ∀ all, collection.select filter all = .ok
        (if all then collection.mark filter
          else Marked.firstOnly (collection.mark filter)) := by
  simp only [find, bind, bind_eq_ok_iff] at searched
  rcases searched with ⟨marked, evaluated, delivered⟩
  rcases Except.ok.inj delivered with rfl
  simp only [select, bind, evaluated, Except.bind]
  rw [Marked.eq_map_of_ofFilter evaluated]
  exact ⟨Marked.hits_mark _ _, fun _ => rfl⟩

theorem find_of_meets {met : Document → Bool}
    (evaluated : ∀ document ∈ collection.documents,
      document.meets filter = .ok (met document)) :
    collection.find filter = .ok (collection.documents.filter met) := by
  simp only [find, bind, Except.bind, Marked.ofFilter_of_meets evaluated]
  rw [Marked.hits_mark]
  rfl

theorem find_of_unmet
    (unmet : ∀ document ∈ collection.documents,
      document.meets filter = .ok false) :
    collection.find filter = .ok [] := by
  rw [find_of_meets unmet, List.filter_false]

theorem select_of_find_error
    (searched : collection.find filter = .error failure) :
    collection.select filter all = .error failure := by
  simp only [find, bind] at searched
  simp only [select, bind]
  cases evaluated : Marked.ofFilter filter collection.documents with
  | ok marked => simp [evaluated, Except.bind, pure, Except.pure] at searched
  | error reason => simpa [evaluated, Except.bind] using searched

/-- An update reports all documents that the search delivers, or the first of
them if it is for one document. -/
theorem matched_of_find (searched : collection.find filter = .ok found)
    (done : collection.update filter update all newcomer =
      .ok (next, report)) :
    report.matched = if all then found.length else min 1 found.length := by
  rcases matched_of_update done with ⟨marked, selected, matched⟩
  rcases find_eq_ok searched with ⟨rfl, marks⟩
  rcases Except.ok.inj (selected.symm.trans (marks all)) with rfl
  rw [matched]
  cases all with
  | true => simp [mark, Marked.hits_mark]
  | false => simp [mark, Marked.hits_firstOnly, Marked.hits_mark]

/-- A removal leaves the documents that the search does not deliver, or all
but the first that it delivers. -/
theorem remove_of_find (searched : collection.find filter = .ok found) :
    collection.remove filter all = .ok (collection.withDocuments
      (if all then
        collection.documents.filter fun document =>
          !document.satisfies filter
      else
        collection.documents.eraseP (·.satisfies filter))) := by
  simp only [remove, bind, (find_eq_ok searched).2 all, Except.bind, mark]
  cases all with
  | true => simp [Marked.misses_mark, withDocuments, pure, Except.pure]
  | false =>
      simp [Marked.misses_firstOnly_mark, withDocuments, pure, Except.pure]

end

end Collection

namespace MemoryStore

variable {store : MemoryStore} {name : String} {filter : Document}
  {found : List Document} {failure : StoreError}

theorem select_eq_find (store : MemoryStore) (name : String)
    (filter : Document) :
    store.select name filter = (store.target name).find filter := by
  unfold select target
  cases store.get? name <;> rfl

theorem documents_eq_target (store : MemoryStore) (name : String) :
    store.documents name = (store.target name).documents := by
  unfold documents target
  cases store.get? name <;> rfl

theorem result_write {Answer : Type} (store : MemoryStore)
    (supply : ObjectId.Supply) (name : String)
    (change : Collection → Except StoreError (Collection × Answer)) :
    ({ store with supply := supply }.write name change).result =
      (change (store.target name)).map Prod.snd := by
  have found : ({ store with supply := supply }.get? name).getD .empty =
      store.target name := rfl
  simp only [write, found]
  cases change (store.target name) <;> rfl

/-- A removal that can evaluate its filter never fails. -/
theorem remove_of_select (searched : store.select name filter = .ok found)
    (options : Document) :
    (store.remove name filter options).result = .ok true ∧
      (store.remove name filter options).state.documents name =
        if isSet options "justOne" then
          (store.documents name).eraseP (·.satisfies filter)
        else
          (store.documents name).filter fun document =>
            !document.satisfies filter := by
  cases there : store.get? name with
  | none =>
      have noDocuments : store.documents name = [] := by
        rw [documents, there]
      simp [remove, modify, there, noDocuments]
  | some collection =>
      rw [select, there] at searched
      have here : store.documents name = collection.documents := by
        rw [documents, there]
      simp only [remove, modify, there, bind, Except.bind, pure, Except.pure,
        Collection.remove_of_find searched, here]
      refine ⟨trivial, ?_⟩
      rw [documents, get?_put_self]
      cases isSet options "justOne" <;> rfl

theorem remove_of_select_error
    (searched : store.select name filter = .error failure)
    (options : Document) :
    (store.remove name filter options).result = .error failure := by
  cases there : store.get? name with
  | none => rw [select, there] at searched; cases searched
  | some collection =>
      rw [select, there] at searched
      simp only [remove, modify, there, bind, Collection.remove,
        Collection.select_of_find_error searched, Except.bind]

/-- The command that counts is given a collection in its first entry and a
filter somewhere behind it. -/
theorem command_of_count {rest : Document}
    (query : rest.get? "query" = some (.document filter)) :
    Command.ofDocument (("count", .string name) :: rest) =
      .ok (.count name filter) := by
  have read : Command.filterOf (("count", .string name) :: rest) = filter := by
    have behind : Document.get? (("count", .string name) :: rest) "query" =
        some (.document filter) := query
    rw [Command.filterOf, behind]
  simp only [Command.ofDocument, Command.collectionOf, Value.asString?,
    bind, Except.bind, read]
  rfl

/-- All operations take a filter to concern the documents `found`: they are
those that satisfy it, in order, they are counted, an update reports them, and
a removal leaves the others.  A removal of one document leaves all but the
first of them. -/
structure Concerns (store : MemoryStore) (name : String) (filter : Document)
    (found : List Document) : Prop where
  selected : found = (store.documents name).filter (·.satisfies filter)
  counted (limit skip : Nat) :
    (store.answer (.count name filter limit skip)).result =
      .ok (if limit = 0 then found.length - skip
        else min (found.length - skip) limit : Nat)
  commanded {rest : Document}
    (query : rest.get? "query" = some (.document filter)) :
    ∃ number : Int64,
      (store.answer (.runCommand (("count", .string name) :: rest))).result =
          .ok [("n", .int64 number), ("ok", .double (.ofInt 1))] ∧
        (found.length < 0x8000000000000000 → number.toInt = found.length)
  updated {change options : Document} {report : UpdateReport}
    (done : (store.answer (.update name filter change options)).result =
      .ok report) :
    report.matched =
      if isSet options "multiple" then found.length else min 1 found.length
  removed (options : Document) :
    (store.answer (.remove name filter options)).result = .ok true ∧
      (store.answer (.remove name filter options)).state.documents name =
        if isSet options "justOne" then
          (store.documents name).eraseP (·.satisfies filter)
        else
          (store.documents name).filter fun document =>
            !document.satisfies filter

/-- No operation takes a filter: all fail for the same reason. -/
structure Refuses (store : MemoryStore) (name : String) (filter : Document)
    (failure : StoreError) : Prop where
  counted (limit skip : Nat) :
    (store.answer (.count name filter limit skip)).result = .error failure
  commanded {rest : Document}
    (query : rest.get? "query" = some (.document filter)) :
    (store.answer (.runCommand (("count", .string name) :: rest))).result =
      .error failure
  updated (change options : Document) :
    (store.answer (.update name filter change options)).result =
      .error failure
  removed (options : Document) :
    (store.answer (.remove name filter options)).result = .error failure

theorem result_update (store : MemoryStore) (name : String)
    (filter change options : Document) :
    (store.update name filter change options).result =
      ((store.target name).update filter change (isSet options "multiple")
        (newcomer store.supply filter change options).1).map Prod.snd :=
  result_write store _ name _

theorem concerns_of_select (searched : store.select name filter = .ok found) :
    store.Concerns name filter found := by
  have inTarget : (store.target name).find filter = .ok found :=
    (select_eq_find store name filter).symm.trans searched
  refine ⟨?_, ?_, ?_, ?_, remove_of_select searched⟩
  · rw [documents_eq_target]
    exact (Collection.find_eq_ok inTarget).1
  · intro limit skip
    simp only [answer, searched, Except.map]
    rfl
  · intro rest query
    refine ⟨Int64.ofInt found.length, ?_, ?_⟩
    · simp only [answer, runCommand, command_of_count query, perform,
        searched, Except.map]
      rfl
    · intro bounded
      exact Int64.toInt_ofInt_of_le (by omega) (by omega)
  · intro change options report done
    have written :=
      (result_update store name filter change options).symm.trans done
    rcases map_eq_ok_iff.mp written with ⟨⟨next, reported⟩, updated, rfl⟩
    exact Collection.matched_of_find inTarget updated

/-- A search that succeeds has evaluated its filter on every document. -/
theorem meets_of_select (searched : store.select name filter = .ok found) :
    ∀ document ∈ store.documents name,
      document.meets filter = .ok (document.satisfies filter) := by
  simp only [select_eq_find, Collection.find, bind, bind_eq_ok_iff] at searched
  rcases searched with ⟨marked, evaluated, -⟩
  rw [documents_eq_target]
  exact Marked.meets_of_ofFilter evaluated

/-- Nothing is found exactly if every document is seen not to match. -/
theorem select_eq_nil_iff :
    store.select name filter = .ok [] ↔
      ∀ document ∈ store.documents name,
        document.meets filter = .ok false := by
  constructor
  · intro searched document member
    have none_selected := (concerns_of_select searched).selected
    have unsatisfied := List.filter_eq_nil_iff.mp none_selected.symm document
      member
    rw [meets_of_select searched document member,
      Bool.eq_false_iff.mpr unsatisfied]
  · intro unmet
    rw [documents_eq_target] at unmet
    rw [select_eq_find, Collection.find_of_unmet unmet]

theorem refuses_of_select
    (searched : store.select name filter = .error failure) :
    store.Refuses name filter failure := by
  have inTarget : (store.target name).find filter = .error failure :=
    (select_eq_find store name filter).symm.trans searched
  refine ⟨?_, ?_, ?_, remove_of_select_error searched⟩
  · intro limit skip
    simp only [answer, searched, Except.map]
  · intro rest query
    simp only [answer, runCommand, command_of_count query, perform, searched,
      Except.map]
    rfl
  · intro change options
    simp only [answer, result_update, Collection.update, bind,
      Collection.select_of_find_error inTarget, Except.bind, Except.map]
    rfl

/-- What a search with a filter delivers is what every operation with this
filter concerns, and if the search fails, every operation fails like it. -/
theorem concerns_of_find (store : MemoryStore) (name : String)
    (filter : Document) :
    match (store.answer (.find name filter [])).result with
    | .ok cursor => store.Concerns name filter cursor.toList
    | .error failure => store.Refuses name filter failure := by
  cases searched : store.select name filter with
  | ok found =>
      have delivered : ((Cursor.ofDocuments found).projected []).toList =
          found := Cursor.toList_ofDocuments found
      simp only [answer, searched, Except.map, delivered]
      exact concerns_of_select searched
  | error failure =>
      simp only [answer, searched, Except.map]
      exact refuses_of_select searched

/-- One of two documents is found, and an operator that does not exist is
refused everywhere. -/
theorem concerns_of_find_shifted :
    shiftedStore.Concerns "c" [("a", .ofInt 3)]
        [[("_id", .ofInt 2), ("a", .ofInt 3)]] ∧
      shiftedStore.Refuses "c" [("$none", .ofInt 3)]
        (.invalidOperation (.unknownTopLevelOperator "$none")) :=
  ⟨concerns_of_find shiftedStore "c" [("a", .ofInt 3)],
    concerns_of_find shiftedStore "c" [("$none", .ofInt 3)]⟩

end MemoryStore

end DocQuery
