import DocQuery.Proofs.Store.Selection

/-!
# What an update rewrites

A successful update that concerns a document at all leaves as many documents
as it found.  Those at the positions it concerns are replaced by what the
update makes of each of them alone, the others stay as they are, and the
report counts the positions concerned and those of them that were changed.

An update works on marked documents.  The marks are told here by position, and
what holds of the position of a mark is carried through the amended documents
to the report.
-/

namespace DocQuery

open Store (Call Reply)

/-! ## Positions -/

/-- An update concerns the document at a position: it satisfies the filter
and, unless the update is for all such documents, is the first to do so. -/
def isTarget (documents : List Document) (filter : Document) (all : Bool)
    (position : Nat) : Bool :=
  documents[position]?.any (·.satisfies filter) &&
    (all || (documents.take position).all fun earlier =>
      !earlier.satisfies filter)

/-- An update that succeeds on the document at a position makes it
different. -/
def isChanged (documents : List Document) (update : Document)
    (position : Nat) : Bool :=
  documents[position]?.any fun document =>
    match Update.apply document update with
    | .ok outcome => outcome.changed
    | .error _ => false

/-- The documents before and after an update of those at some positions, and
what is reported of it. -/
structure Rewrites (update : Document) (concerned : Nat → Bool)
    (before after : List Document) (report : UpdateReport) : Prop where
  length : after.length = before.length
  kept (position : Nat) (spared : concerned position = false) :
    after[position]? = before[position]?
  rewritten {position : Nat} {document : Document}
    (there : before[position]? = some document)
    (target : concerned position = true) :
    ∃ outcome, Update.apply document update = .ok outcome ∧
      after[position]? = some outcome.document
  matched : report.matched = (List.range before.length).countP concerned
  modified : report.modified = (List.range before.length).countP fun position =>
    concerned position && isChanged before update position

/-- Counting items is counting their positions. -/
theorem countP_eq_countP_range {Item : Type} (condition : Item → Bool)
    (items : List Item) :
    items.countP condition =
      (List.range items.length).countP fun position =>
        items[position]?.any condition := by
  induction items with
  | nil => rfl
  | cons item rest ih =>
      rw [List.length_cons, List.range_succ_eq_map, List.countP_cons,
        List.countP_cons, List.countP_map, ih]
      rfl

/-- Only the first mark is left, so a mark is left if no earlier one was
there. -/
theorem Marked.getElem?_firstOnly (marked : List Marked) (position : Nat) :
    (firstOnly marked)[position]? =
      marked[position]?.map fun one =>
        { one with
          hit := one.hit && (marked.take position).all fun earlier =>
            !earlier.hit } := by
  induction marked generalizing position with
  | nil => rfl
  | cons one rest ih =>
      cases mark : one.hit with
      | true =>
          simp only [firstOnly, mark, if_true]
          cases position with
          | zero => simp
          | succ position => simp [mark]
      | false =>
          simp only [firstOnly, mark, Bool.false_eq_true, if_false]
          cases position with
          | zero => simp
          | succ position => simp [ih, mark]

/-- The documents that an operation marks are those at its targets. -/
theorem Collection.getElem?_of_select {collection : Collection}
    {filter : Document} {all : Bool} {marked : List Marked}
    (selected : collection.select filter all = .ok marked) (position : Nat) :
    marked[position]? = collection.documents[position]?.map fun document =>
      ⟨document, isTarget collection.documents filter all position⟩ := by
  simp only [select, bind, bind_eq_ok_iff] at selected
  rcases selected with ⟨evaluated, marks, chosen⟩
  rcases Except.ok.inj chosen with rfl
  rw [Marked.eq_map_of_ofFilter marks]
  cases there : collection.documents[position]? with
  | none => cases all <;> simp [Marked.getElem?_firstOnly, there]
  | some document =>
      cases all with
      | true => simp [there, isTarget]
      | false =>
          simp [Marked.getElem?_firstOnly, there, isTarget, ← List.map_take,
            Function.comp_def]

/-! ## Amended documents -/

namespace Amended

/-- What becomes of a document, with its mark, in an update. -/
inductive Of (update : Document) : Marked → Amended → Prop where
  | rewritten {document : Document} {outcome : Update.Outcome}
      (applied : Update.apply document update = .ok outcome) :
      Of update ⟨document, true⟩ ⟨outcome.document, true, outcome.changed⟩
  | kept {document : Document} :
      Of update ⟨document, false⟩ ⟨document, false, false⟩

/-- Each document is amended by itself. -/
theorem forall₂_of_ofMarked {update : Document} {marked : List Marked}
    {amended : List Amended} (made : ofMarked update marked = .ok amended) :
    List.Forall₂ (Of update) marked amended := by
  induction marked generalizing amended with
  | nil =>
      rcases Except.ok.inj made with rfl
      exact List.Forall₂.nil
  | cons one rest ih =>
      rcases one with ⟨document, hit⟩
      cases hit with
      | true =>
          rw [ofMarked_cons_of_hit rfl, bind_eq_ok_iff] at made
          rcases made with ⟨outcome, applied, made⟩
          rcases map_eq_ok_iff.mp made with ⟨others, othersMade, rfl⟩
          exact List.Forall₂.cons (Of.rewritten applied) (ih othersMade)
      | false =>
          rw [ofMarked_cons_of_miss rfl] at made
          rcases map_eq_ok_iff.mp made with ⟨others, othersMade, rfl⟩
          exact List.Forall₂.cons Of.kept (ih othersMade)

end Amended

namespace Collection

variable {collection next : Collection} {filter update : Document}
  {all : Bool} {newcomer : Option (Except StoreError Document)}
  {marked : List Marked} {amended : List Amended} {report : UpdateReport}

/-- What an update makes of the document at a position. -/
theorem getElem?_amended
    (selected : collection.select filter all = .ok marked)
    (made : Amended.ofMarked update marked = .ok amended) {position : Nat}
    {document : Document}
    (there : collection.documents[position]? = some document) :
    ∃ one, amended[position]? = some one ∧
      Amended.Of update
        ⟨document, isTarget collection.documents filter all position⟩ one := by
  rcases List.forall₂_iff_get.mp (Amended.forall₂_of_ofMarked made) with
    ⟨sameLength, related⟩
  have here := getElem?_of_select selected position
  rw [there, Option.map_some, List.getElem?_eq_some_iff] at here
  rcases here with ⟨inMarked, mark⟩
  have inAmended : position < amended.length := sameLength ▸ inMarked
  refine ⟨amended[position], List.getElem?_eq_getElem inAmended, ?_⟩
  rw [← mark]
  exact related position inMarked inAmended

theorem length_amended
    (selected : collection.select filter all = .ok marked)
    (made : Amended.ofMarked update marked = .ok amended) :
    amended.length = collection.documents.length := by
  rw [← (Amended.forall₂_of_ofMarked made).length_eq,
    ← documents_select selected, List.length_map]

/-- Counting amended documents is counting the positions where they stand. -/
theorem countP_amended
    (selected : collection.select filter all = .ok marked)
    (made : Amended.ofMarked update marked = .ok amended)
    {condition : Amended → Bool} {counted : Nat → Bool}
    (agree : ∀ {position document one},
      collection.documents[position]? = some document →
        Amended.Of update
            ⟨document, isTarget collection.documents filter all position⟩
            one →
          condition one = counted position) :
    amended.countP condition =
      (List.range collection.documents.length).countP counted := by
  rw [countP_eq_countP_range, length_amended selected made]
  apply List.countP_congr
  intro position within
  have there := List.getElem?_eq_getElem (List.mem_range.mp within)
  rcases getElem?_amended selected made there with ⟨one, here, made⟩
  rw [here, Option.any_some, agree there made]

theorem rewrites_of_ofMarked
    (selected : collection.select filter all = .ok marked)
    (made : Amended.ofMarked update marked = .ok amended) :
    Rewrites update (isTarget collection.documents filter all)
      collection.documents (amended.map Amended.document)
      (Amended.report amended) := by
  constructor
  case length => rw [List.length_map, length_amended selected made]
  case kept =>
    intro position spared
    cases there : collection.documents[position]? with
    | none =>
        rw [List.getElem?_eq_none_iff] at there ⊢
        rwa [List.length_map, length_amended selected made]
    | some document =>
        rcases getElem?_amended selected made there with ⟨one, here, way⟩
        rw [spared] at way
        cases way
        simp [here]
  case rewritten =>
    intro position document there target
    rcases getElem?_amended selected made there with ⟨one, here, way⟩
    rw [target] at way
    cases way with
    | rewritten applied => exact ⟨_, applied, by simp [here]⟩
  case matched =>
    apply countP_amended selected made
    intro position document one _ way
    generalize isTarget collection.documents filter all position = target
      at way ⊢
    cases way <;> rfl
  case modified =>
    apply countP_amended selected made
    intro position document one there way
    generalize isTarget collection.documents filter all position = target
      at way ⊢
    cases way with
    | rewritten applied => simp [isChanged, there, applied]
    | kept => rfl

/-- If a document satisfies the filter then one is marked. -/
theorem any_hit_of_select
    (selected : collection.select filter all = .ok marked)
    {document : Document} (member : document ∈ collection.documents)
    (satisfied : document.satisfies filter = true) :
    marked.any Marked.hit = true := by
  simp only [select, bind, bind_eq_ok_iff] at selected
  rcases selected with ⟨evaluated, marks, chosen⟩
  rcases Except.ok.inj chosen with rfl
  rw [← Bool.not_eq_false, ← Marked.hits_eq_nil_iff,
    Marked.eq_map_of_ofFilter marks]
  have found : document ∈ collection.documents.filter (·.satisfies filter) :=
    List.mem_filter.mpr ⟨member, satisfied⟩
  intro none_marked
  cases all with
  | true =>
      rw [if_pos rfl, Marked.hits_mark] at none_marked
      simp [none_marked] at found
  | false =>
      rw [if_neg Bool.false_ne_true, Marked.hits_firstOnly, Marked.hits_mark,
        List.take_eq_nil_iff] at none_marked
      simp [none_marked.resolve_left (by decide)] at found

/-- An update that succeeds rewrites the documents at its targets, or no
document satisfies the filter and the newcomer is stored if there is one. -/
theorem rewrites_or_inserts_of_update
    (done : collection.update filter update all newcomer =
      .ok (next, report)) :
    (Rewrites update (isTarget collection.documents filter all)
        collection.documents next.documents report ∧
      next.indexes = collection.indexes) ∨
    ((∀ document ∈ collection.documents,
        document.satisfies filter = false) ∧
      report = ⟨0, 0⟩ ∧
        (newcomer = none ∧ next = collection ∨
          ∃ made, newcomer = some (.ok made) ∧
            collection.insert made = .ok next)) := by
  simp only [Collection.update, bind, bind_eq_ok_iff] at done
  rcases done with ⟨marked, selected, done⟩
  cases concerned : marked.any Marked.hit with
  | true =>
      simp only [concerned, if_true, amend, bind, bind_eq_ok_iff] at done
      rcases done with ⟨amended, made, -, -, done⟩
      rcases Prod.mk.inj (Except.ok.inj done) with ⟨rfl, rfl⟩
      exact Or.inl ⟨rewrites_of_ofMarked selected made, rfl⟩
  | false =>
      have unmet : ∀ document ∈ collection.documents,
          document.satisfies filter = false := by
        intro document member
        rw [← Bool.not_eq_true]
        intro satisfied
        simp [any_hit_of_select selected member satisfied] at concerned
      simp only [concerned, Bool.false_eq_true, if_false] at done
      refine Or.inr ⟨unmet, ?_⟩
      rcases newcomer with _ | made
      · rcases Prod.mk.inj (Except.ok.inj done) with ⟨rfl, rfl⟩
        exact ⟨rfl, Or.inl ⟨rfl, rfl⟩⟩
      · simp only [bind_eq_ok_iff] at done
        rcases done with ⟨document, rfl, after, stored, done⟩
        rcases Prod.mk.inj (Except.ok.inj done) with ⟨rfl, rfl⟩
        exact ⟨rfl, Or.inr ⟨document, rfl, stored⟩⟩

/-- An update of a collection in which a document satisfies the filter. -/
theorem rewrites_of_update
    (done : collection.update filter update all newcomer =
      .ok (next, report))
    {document : Document} (member : document ∈ collection.documents)
    (satisfied : document.satisfies filter = true) :
    Rewrites update (isTarget collection.documents filter all)
        collection.documents next.documents report ∧
      next.indexes = collection.indexes := by
  refine (rewrites_or_inserts_of_update done).resolve_right ?_
  rintro ⟨unmet, -⟩
  exact Bool.noConfusion (satisfied.symm.trans (unmet document member))

end Collection

/-- No more documents are changed than are concerned. -/
theorem Rewrites.modified_le {update : Document} {concerned : Nat → Bool}
    {before after : List Document} {report : UpdateReport}
    (rewrites : Rewrites update concerned before after report) :
    report.modified ≤ report.matched := by
  rw [rewrites.matched, rewrites.modified]
  apply List.countP_mono_left
  intro position _ both
  exact (Bool.and_eq_true_iff.mp both).1

namespace MemoryStore

variable {store : MemoryStore} {name : String}
  {filter change options : Document} {report : UpdateReport}

theorem get?_write_of_ok {Answer : Type} {supply : ObjectId.Supply}
    {change : Collection → Except StoreError (Collection × Answer)}
    {next : Collection} {given : Answer}
    (made : change (store.target name) = .ok (next, given)) :
    ({ store with supply := supply }.write name change).state.get? name =
      some next := by
  have found : ({ store with supply := supply }.get? name).getD .empty =
      store.target name := rfl
  simp only [write, found, made]
  exact get?_put_self ..

/-- An update that succeeds leaves what it makes of the collection that it
finds. -/
theorem exists_of_update_eq_ok
    (done : (store.answer (.update name filter change options)).result =
      .ok report) :
    ∃ next,
      (store.target name).update filter change (isSet options "multiple")
          (newcomer store.supply filter change options).1 =
        .ok (next, report) ∧
      (store.answer (.update name filter change options)).state.get? name =
        some next := by
  have written :=
    (result_update store name filter change options).symm.trans done
  rcases map_eq_ok_iff.mp written with ⟨⟨next, given⟩, updated, rfl⟩
  exact ⟨next, updated, get?_write_of_ok updated⟩

/-- An update that succeeds and concerns a document at all rewrites the
documents at its targets, each by itself, and nothing else. -/
theorem rewrites_targets_of_update
    (done : (store.answer (.update name filter change options)).result =
      .ok report)
    {document : Document} (member : document ∈ store.documents name)
    (met : document.meets filter = .ok true) :
    Rewrites change
        (isTarget (store.documents name) filter (isSet options "multiple"))
        (store.documents name)
        ((store.answer (.update name filter change options)).state.documents
          name)
        report ∧
      report.modified ≤ report.matched ∧
      ((store.answer (.update name filter change options)).state.get? name).map
          Collection.indexes =
        (store.get? name).map Collection.indexes ∧
      ∀ other, other ≠ name →
        (store.answer (.update name filter change options)).state.get? other =
          store.get? other := by
  rcases exists_of_update_eq_ok done with ⟨next, updated, left⟩
  have satisfied : document.satisfies filter = true := by
    rw [Document.satisfies, met]
  rw [documents_eq_target] at member
  rcases Collection.rewrites_of_update updated member satisfied with
    ⟨rewrites, sameIndexes⟩
  have leftDocuments : (store.answer
      (.update name filter change options)).state.documents name =
        next.documents := by
    rw [documents, left]
  rw [documents_eq_target, leftDocuments]
  refine ⟨rewrites, rewrites.modified_le, ?_, ?_⟩
  · cases there : store.get? name with
    | none =>
        rw [target, there] at member
        simp [Collection.empty] at member
    | some collection =>
        rw [left, Option.map_some, sameIndexes, target_of_get? there]
        rfl
  · intro other different
    exact get?_write_ne _ different _

/-- Two values are shifted once more: the first document takes the value that
the second one had, and the second one is rewritten as it was found. -/
theorem rewrites_targets_of_update_shifted :
    (shiftedStore.answer (.update "c" []
          [("$inc", .document [("a", .ofInt 1)])]
          [("multiple", .boolean true)])).result = .ok ⟨2, 2⟩ ∧
      [("_id", .ofInt 1), ("a", .ofInt 2)] ∈ shiftedStore.documents "c" ∧
      Document.meets [("_id", .ofInt 1), ("a", .ofInt 2)] [] = .ok true ∧
      Rewrites [("$inc", .document [("a", .ofInt 1)])]
        (isTarget (shiftedStore.documents "c") [] true)
        [[("_id", .ofInt 1), ("a", .ofInt 2)],
          [("_id", .ofInt 2), ("a", .ofInt 3)]]
        [[("_id", .ofInt 1), ("a", .ofInt 3)],
          [("_id", .ofInt 2), ("a", .ofInt 4)]]
        ⟨2, 2⟩ := by
  have member : [("_id", .ofInt 1), ("a", .ofInt 2)] ∈
      shiftedStore.documents "c" := List.mem_cons_self
  have done : (shiftedStore.answer (.update "c" []
      [("$inc", .document [("a", .ofInt 1)])]
      [("multiple", .boolean true)])).result = .ok ⟨2, 2⟩ := rfl
  exact ⟨done, member, rfl, (rewrites_targets_of_update done member rfl).1⟩

end MemoryStore

end DocQuery
