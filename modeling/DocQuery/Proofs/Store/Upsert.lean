import DocQuery.Proofs.Filter.Evaluation
import DocQuery.Proofs.Store.Idle
import DocQuery.Proofs.Store.Rewriting
import DocQuery.Proofs.Update.Setting

/-!
# Documents made by updates

An update that finds nothing can store a new document, made of the literals of
its filter.  Whether this document satisfies the filter is decided condition
by condition: a value is taken over only if it is no document, under the path
as a single name, so it is found again only on a path of one name; on all
other paths the new document has nothing, which is what `null` asks for.

If all conditions are met then the same update finds the document when it is
repeated, and leaves it as it is.  Otherwise every repetition makes another
one.
-/

namespace DocQuery

open Store (Call Reply)

/-! ## The new document -/

namespace MemoryStore

/-- The literal of a condition is found on its path in the new document: the
path is a single name, and the literal no document. -/
def takesOver (path : String) (literal : Value) : Bool :=
  isReadablePath path && pathNames path == [path] &&
    literal.asDocument?.isNone

/-- The new document meets a condition: it has nothing there, which agrees with
`null`, or the literal, which has to agree with itself. -/
def seeds : String × Value → Bool
  | (_, .null) => true
  | (path, literal) =>
    takesOver path literal && literal.agreesOrContains literal

variable {filter : Document} {path : String} {literal : Value}

theorem wellFormed_seed (proper : filter.wellFormed = true) :
    (seed filter).wellFormed = true :=
  Document.wellFormed_of_sublist proper List.filter_sublist

/-- The new document starts with the literals that are no documents, each
under its path as a name. -/
theorem get?_seed (proper : filter.wellFormed = true)
    (given : Filter.isLiteral (path, literal) = true)
    (member : (path, literal) ∈ filter) :
    (seed filter).get? path =
      if literal.asDocument?.isNone then some literal else none := by
  have field : isOperatorName path = false := by
    simpa using (Bool.and_eq_true_iff.mp given).1
  split
  · next plain =>
      apply Document.get?_of_mem
        (Document.wellFormed_iff.mp (wellFormed_seed proper)).1
      simp [seed, member, field, plain]
  · next nested =>
      cases found : (seed filter).get? path with
      | none => rfl
      | some other =>
          have taken := Document.mem_of_get? found
          simp only [seed, List.mem_filter, Bool.and_eq_true] at taken
          have distinct := (Document.wellFormed_iff.mp proper).1
          have first := Document.get?_of_mem distinct member
          rw [Document.get?_of_mem distinct taken.1] at first
          rcases Option.some.inj first
          exact absurd taken.2.2 nested

/-- No path of several names leads anywhere in it. -/
theorem follow?_seed (filter : Document) (first second : String)
    (rest : List String) :
    (seed filter).follow? (first :: second :: rest) = none := by
  unfold Document.follow?
  split
  · next entries found =>
      have taken := Document.mem_of_get? found
      simp [seed, Value.asDocument?] at taken
  · rfl

theorem getPath?_seed (proper : filter.wellFormed = true)
    (given : Filter.isLiteral (path, literal) = true)
    (member : (path, literal) ∈ filter) :
    (seed filter).getPath? path =
      if takesOver path literal then some literal else none := by
  unfold Document.getPath? takesOver
  cases readable : isReadablePath path with
  | false => rfl
  | true =>
      rw [if_pos rfl, Bool.true_and]
      cases names : pathNames path with
      | nil => exact absurd names (pathNames_ne_nil path)
      | cons first rest =>
          cases rest with
          | nil =>
              rcases pathNames_eq_singleton names
              simpa [Document.follow?] using get?_seed proper given member
          | cons second others =>
              rw [follow?_seed]
              simp

/-- The document that an update makes of its filter by setting fields, with
its identifier. -/
def upserted (supply : ObjectId.Supply) (filter changes : Document) :
    Document :=
  (Identified.ofDocument supply
    ((seed filter).placeAll (Update.writesOf changes))).1.document

theorem newcomer_setting {options : Document} (supply : ObjectId.Supply)
    (filter changes : Document) (upsert : isSet options "upsert" = true) :
    (newcomer supply filter (Update.setting changes) options).1 =
      some (.ok (upserted supply filter changes)) := by
  simp only [newcomer, upsert, if_true, Update.apply, Update.result_setting]
  rfl

variable {supply : ObjectId.Supply} {changes : Document}

theorem getPath?_placeAll_seed
    (apart : ∀ other ∈ changes.keys, PathsApart other path) :
    ((seed filter).placeAll (Update.writesOf changes)).getPath? path =
      (seed filter).getPath? path := by
  unfold Document.getPath?
  rw [Document.follow?_placeAll_of_apart]
  intro write member
  rcases List.mem_map.mp member with ⟨⟨other, value⟩, inChanges, rfl⟩
  exact apart other (List.mem_map_of_mem inChanges)

/-- A condition is met by what was taken over for it exactly if it is
seeded. -/
theorem agrees_takenOver (path : String) (literal : Value) :
    Filter.agrees (if takesOver path literal then some literal else none)
        literal =
      seeds (path, literal) := by
  cases taken : takesOver path literal with
  | true =>
      cases literal
      case null => rfl
      all_goals simp [Filter.agrees, seeds, taken]
  | false =>
      cases literal
      case null => rfl
      all_goals simp [Filter.agrees, seeds, taken]

/-- The new document meets exactly the conditions that are seeded. -/
theorem agrees_upserted (proper : filter.wellFormed = true)
    (given : Filter.isLiteral (path, literal) = true)
    (member : (path, literal) ∈ filter)
    (apart : ∀ other ∈ changes.keys, PathsApart other path) :
    Filter.agrees ((upserted supply filter changes).getPath? path) literal =
      seeds (path, literal) := by
  have before := @getPath?_placeAll_seed filter path changes apart
  rw [getPath?_seed proper given member] at before
  rcases Identified.document_ofDocument supply
      ((seed filter).placeAll (Update.writesOf changes)) with
    ⟨-, same⟩ | ⟨absent, id, stamped⟩
  · rw [upserted, same, before]
    exact agrees_takenOver path literal
  · rw [upserted, stamped]
    by_cases own : path = "_id"
    · subst own
      rw [Document.getPath?_id, absent] at before
      rw [Document.getPath?_id, Document.get?_cons, if_pos rfl]
      -- Only a document is not taken over as an identifier.
      have dropped : takesOver "_id" literal = false := by
        cases taken : takesOver "_id" literal with
        | true => simp [taken] at before
        | false => rfl
      have readable : isReadablePath "_id" = true := by decide +kernel
      simp only [takesOver, readable, pathNames_id, beq_self_eq_true,
        Bool.and_self, Bool.true_and] at dropped
      cases literal
      case document entries => rfl
      all_goals simp [Value.asDocument?] at dropped
    · have other : pathNames path ≠ ["_id"] :=
        fun names => own (pathNames_eq_singleton names)
      rw [← agrees_takenOver, ← before, Document.getPath?,
        Document.follow?_cons_objectId id absent other]
      rfl

theorem meets_upserted (proper : filter.wellFormed = true)
    (literal : ∀ condition ∈ filter, Filter.isLiteral condition = true)
    (apart : ∀ other ∈ changes.keys, ∀ path ∈ filter.keys,
      PathsApart other path) :
    (upserted supply filter changes).meets filter =
      .ok (filter.all seeds) := by
  rw [Document.meets_of_isLiteral literal]
  congr 1
  rw [Bool.eq_iff_iff, List.all_eq_true, List.all_eq_true]
  apply forall₂_congr
  rintro ⟨path, operand⟩ member
  rw [agrees_upserted proper (literal _ member) member fun other inChanges =>
    apart other inChanges path (List.mem_map_of_mem member)]

/-- Fields that are set in the new document once more stay as they are. -/
theorem result_upserted (proper : filter.wellFormed = true) :
    Update.result (upserted supply filter changes) (Update.setting changes) =
      .ok (upserted supply filter changes) := by
  rw [Update.result_setting]
  have repeated := Document.placeAll_placeAll (Update.writesOf changes)
    (wellFormed_seed proper)
  rcases Identified.document_ofDocument supply
      ((seed filter).placeAll (Update.writesOf changes)) with
    ⟨-, same⟩ | ⟨absent, id, stamped⟩
  · rw [upserted, same, repeated]
  · have other : "_id" ∉ Document.firstNames (Update.writesOf changes) :=
      fun named => Document.get?_eq_none_iff.mp absent
        (Document.firstNames_subset_placeAll _ _ named)
    rw [upserted, stamped, Document.placeAll_cons_of_not_mem other, repeated]

end MemoryStore

/-! ## Updates that find nothing, or the last document only -/

namespace Amended

/-- Documents that an update does not concern. -/
def untouched (documents : List Document) : List Amended :=
  documents.map fun document => ⟨document, false, false⟩

theorem ofMarked_unmarked (update : Document) (documents : List Document)
    (rest : List Marked) :
    ofMarked update (Marked.unmarked documents ++ rest) =
      (ofMarked update rest).map (untouched documents ++ ·) := by
  induction documents with
  | nil =>
      cases made : ofMarked update rest <;>
        simp [made, Marked.unmarked, untouched, Except.map]
  | cons document others ih =>
      simp only [Marked.unmarked, List.map_cons, List.cons_append] at ih ⊢
      rw [ofMarked_cons_of_miss rfl, ih]
      cases ofMarked update rest <;> rfl

theorem check_untouched (indexes : List Index) (before : List Document)
    (documents : List Document) (rest : List Amended) :
    check indexes before (untouched documents ++ rest) =
      check indexes (before ++ documents) rest := by
  induction documents generalizing before with
  | nil => simp [untouched]
  | cons document others ih =>
      simp only [untouched, List.map_cons, List.cons_append] at ih ⊢
      rw [check_cons_of_miss rfl, ih]
      simp

end Amended

namespace Collection

variable {filter change : Document} {all : Bool}

section

variable {documents : List Document} {indexes : List Index} {last : Document}

theorem select_of_met_last
    (unmet : ∀ document ∈ documents, document.meets filter = .ok false)
    (met : last.meets filter = .ok true) :
    Collection.select ⟨documents ++ [last], indexes⟩ filter all =
      .ok (Marked.unmarked documents ++ [⟨last, true⟩]) := by
  have marks : Marked.ofFilter filter (documents ++ [last]) =
      .ok (Marked.unmarked documents ++ [⟨last, true⟩]) := by
    rw [Marked.ofFilter_of_unmet unmet]
    simp [Marked.ofFilter, bind, Except.bind, met, pure, Except.pure,
      Except.map]
  have first := Marked.firstOnly_unmarked documents [⟨last, true⟩]
  cases all with
  | true => simp [select, bind, Except.bind, marks, pure, Except.pure]
  | false =>
      simp [select, bind, Except.bind, marks, pure, Except.pure, first,
        Marked.firstOnly]

/-- A document that the update leaves as it is is allowed where it was. -/
theorem amend_last_of_kept
    (kept : Update.result last change = .ok last)
    (allowed : Index.checkAll indexes documents last = .ok ()) :
    ∃ modified,
      Collection.amend ⟨documents ++ [last], indexes⟩
          (Marked.unmarked documents ++ [⟨last, true⟩]) change =
        .ok (⟨documents ++ [last], indexes⟩, ⟨1, modified⟩) := by
  generalize changed_eq : (!Document.equals last last) = changed
  have applied : Update.apply last change = .ok ⟨last, changed⟩ := by
    rw [Update.apply, kept, ← changed_eq]
    rfl
  have made : Amended.ofMarked change
      (Marked.unmarked documents ++ [⟨last, true⟩]) =
        .ok (Amended.untouched documents ++ [⟨last, true, changed⟩]) := by
    rw [Amended.ofMarked_unmarked, Amended.ofMarked_cons_of_hit rfl, applied]
    rfl
  have checked : Amended.check indexes []
      (Amended.untouched documents ++ [⟨last, true, changed⟩]) = .ok () := by
    rw [Amended.check_untouched, Amended.check_cons_of_hit rfl]
    simp [allowed, Except.bind, Amended.check]
  refine ⟨if changed then 1 else 0, ?_⟩
  simp only [amend, bind, made, Except.bind, checked, pure, Except.pure,
    Amended.report]
  simp [Amended.untouched, List.countP_map, Function.comp_def]

/-- An update that finds the last document only, and leaves it as it is,
leaves the collection as it is. -/
theorem update_of_met_last {newcomer : Option (Except StoreError Document)}
    (unmet : ∀ document ∈ documents, document.meets filter = .ok false)
    (met : last.meets filter = .ok true)
    (kept : Update.result last change = .ok last)
    (allowed : Index.checkAll indexes documents last = .ok ()) :
    ∃ modified,
      Collection.update ⟨documents ++ [last], indexes⟩ filter change all
          newcomer =
        .ok (⟨documents ++ [last], indexes⟩, ⟨1, modified⟩) := by
  simp only [Collection.update, bind, select_of_met_last unmet met,
    Except.bind, List.any_append, Marked.any_hit_unmarked, List.any_cons,
    List.any_nil, Bool.or_false, Bool.false_or, if_true]
  exact amend_last_of_kept kept allowed

end

theorem eq_of_insert {collection next : Collection} {document : Document}
    (stored : collection.insert document = .ok next) :
    Index.checkAll collection.indexes collection.documents document =
        .ok () ∧
      next = collection.withDocuments (collection.documents ++ [document]) := by
  simp only [insert, bind, bind_eq_ok_iff] at stored
  rcases stored with ⟨checked, allowed, made⟩
  exact ⟨allowed, (Except.ok.inj made).symm⟩

end Collection

/-! ## Calls -/

namespace MemoryStore

variable {store : MemoryStore} {name : String}
  {filter changes options : Document} {report : UpdateReport}

/-- The call for an update that sets fields. -/
abbrev settingCall (name : String) (filter changes options : Document) :
    Call :=
  .update name filter (Update.setting changes) options

theorem inserts_of_upsert (upsert : isSet options "upsert" = true)
    (unmet : ∀ document ∈ (store.target name).documents,
      document.meets filter = .ok false)
    (done : (store.answer (settingCall name filter changes options)).result =
      .ok report) :
    ∃ next,
      (store.target name).insert (upserted store.supply filter changes) =
          .ok next ∧
        (store.answer (settingCall name filter changes options)).state.get?
            name = some next ∧
        report = ⟨0, 0⟩ := by
  rcases exists_of_update_eq_ok done with ⟨next, updated, left⟩
  rw [newcomer_setting store.supply filter changes upsert,
    update_of_find_nil (Collection.find_of_unmet unmet)] at updated
  simp only [Except.bind, map_eq_ok_iff] at updated
  rcases updated with ⟨after, stored, equal⟩
  rcases Prod.mk.inj equal with ⟨rfl, rfl⟩
  exact ⟨after, stored, left, rfl⟩

/-- An update that finds the last document of a collection only, and leaves it
as it is, reports this document and leaves all documents as they are. -/
theorem finds_last_of_update {documents : List Document}
    {indexes : List Index} {last change : Document}
    (unmet : ∀ document ∈ documents, document.meets filter = .ok false)
    (met : last.meets filter = .ok true)
    (kept : Update.result last change = .ok last)
    (allowed : Index.checkAll indexes documents last = .ok ())
    (here : store.target name = ⟨documents ++ [last], indexes⟩) :
    (store.answer (.update name filter change options)).state.documents name =
        documents ++ [last] ∧
      ∃ modified,
        (store.answer (.update name filter change options)).result =
          .ok (⟨1, modified⟩ : UpdateReport) := by
  have found : ∃ modified,
      (store.target name).update filter change (isSet options "multiple")
          (newcomer store.supply filter change options).1 =
        .ok (⟨documents ++ [last], indexes⟩, ⟨1, modified⟩) := by
    rw [here]
    exact Collection.update_of_met_last unmet met kept allowed
  rcases found with ⟨modified, found⟩
  have left : (store.answer
      (.update name filter change options)).state.get? name =
        some ⟨documents ++ [last], indexes⟩ := get?_write_of_ok found
  refine ⟨by rw [MemoryStore.documents, left], modified, ?_⟩
  exact (result_update store name filter change options).trans
    (congrArg (Except.map Prod.snd) found)

/-- An update with literal conditions that finds nothing, sets fields elsewhere
and is to store a new document then, adds one document if it succeeds.  This
document satisfies the filter exactly if all conditions are seeded.  If so,
the same update repeated finds it, and only it, and leaves the documents as
they are; if not, every repetition that succeeds finds nothing and adds another
document. -/
theorem documents_of_upsert (proper : filter.wellFormed = true)
    (literal : ∀ condition ∈ filter, Filter.isLiteral condition = true)
    (apart : ∀ other ∈ changes.keys, ∀ path ∈ filter.keys,
      PathsApart other path)
    (upsert : isSet options "upsert" = true)
    (unmet : ∀ document ∈ store.documents name,
      document.meets filter = .ok false)
    (done : (store.answer (settingCall name filter changes options)).result =
      .ok report) :
    let call := settingCall name filter changes options
    let after := (store.answer call).state
    let later := (after.answer call).state
    ∃ document,
      after.documents name = store.documents name ++ [document] ∧
        document.meets filter = .ok (filter.all seeds) ∧
        (filter.all seeds = true →
          later.documents name = after.documents name ∧
            ∃ modified, (after.answer call).result = .ok ⟨1, modified⟩) ∧
        (filter.all seeds = false →
          ∀ again, (after.answer call).result = .ok again →
            again.matched = 0 ∧ ∃ other,
              later.documents name = after.documents name ++ [other]) := by
  intro call after later
  rw [documents_eq_target] at unmet
  rcases inserts_of_upsert upsert unmet done with ⟨next, stored, left, -⟩
  rcases Collection.eq_of_insert stored with ⟨allowed, rfl⟩
  have here := target_of_get? left
  have met : (upserted store.supply filter changes).meets filter =
      .ok (filter.all seeds) := meets_upserted proper literal apart
  refine ⟨upserted store.supply filter changes, ?_, met, ?_, ?_⟩
  · rw [documents_eq_target, documents_eq_target, here]
    rfl
  · intro seeded
    rw [seeded] at met
    rw [documents_eq_target after, here]
    exact finds_last_of_update unmet met (result_upserted proper) allowed here
  · intro dropped again repeated
    rw [dropped] at met
    have alsoUnmet : ∀ document ∈ (after.target name).documents,
        document.meets filter = .ok false := by
      rw [here]
      intro document member
      rcases List.mem_append.mp member with old | new
      · exact unmet document old
      · rcases List.mem_singleton.mp new
        exact met
    rcases inserts_of_upsert upsert alsoUnmet repeated with
      ⟨last, storedAgain, leftAgain, rfl⟩
    rcases Collection.eq_of_insert storedAgain with ⟨-, rfl⟩
    refine ⟨rfl, upserted after.supply filter changes, ?_⟩
    rw [documents_eq_target, documents_eq_target, target_of_get? leftAgain]
    rfl

/-- A condition on a single name is taken over and found again; one on a path
into a document is not, and the second call stores a second document. -/
theorem documents_of_upsert_dotted :
    let store := empty "sample" default
    let options : Document := [("upsert", .boolean true)]
    let changes : Document := [("v", .ofInt 1)]
    let single := settingCall "c" [("a", .ofInt 1)] changes options
    let dotted := settingCall "c" [("a.b", .ofInt 1)] changes options
    (store.answer single).result = .ok ⟨0, 0⟩ ∧
      (store.run [single, single]).documents "c" =
        (store.run [single]).documents "c" ∧
      (store.answer dotted).result = .ok ⟨0, 0⟩ ∧
      ∃ first second, (store.run [dotted, dotted]).documents "c" =
        [first, second] := by
  intro store options changes single dotted
  have unmet (filter : Document) : ∀ document ∈ store.documents "c",
      document.meets filter = .ok false := by
    intro document member
    simp [store, empty, documents, get?] at member
  have singleDone : (store.answer single).result = .ok ⟨0, 0⟩ := rfl
  have dottedDone : (store.answer dotted).result = .ok ⟨0, 0⟩ := rfl
  have dottedAgain : ((store.run [dotted]).answer dotted).result =
      .ok ⟨0, 0⟩ := rfl
  refine ⟨singleDone, ?_, dottedDone, ?_⟩
  · rcases documents_of_upsert (by decide) (by decide) (by decide +kernel) rfl
      (unmet _) singleDone with ⟨document, -, -, repeated, -⟩
    exact (repeated (by decide +kernel)).1
  · rcases documents_of_upsert (by decide) (by decide) (by decide +kernel) rfl
      (unmet _) dottedDone with ⟨first, added, -, -, repeated⟩
    rcases repeated (by decide +kernel) ⟨0, 0⟩ dottedAgain with
      ⟨-, second, addedAgain⟩
    exact ⟨first, second, addedAgain.trans (by rw [added]; rfl)⟩

end MemoryStore

end DocQuery
