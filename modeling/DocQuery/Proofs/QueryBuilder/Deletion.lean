import DocQuery.Proofs.Clause.Conditions
import DocQuery.Proofs.Document.Path
import DocQuery.Proofs.Filter.Identifier
import DocQuery.Proofs.QueryBuilder.Paging

/-!
# Counting after a deletion

Deleting all matches reads an `_id` that is written as the digits of an
identifier as that identifier; counting takes it for a text.  Whoever states
the same conditions again after a deletion therefore counts nothing, except
for documents whose `_id` is the text itself: they were passed over, and are
counted if they meet the other conditions.
-/

namespace DocQuery

namespace Document

/-! ## The entry of a name -/

variable {document before after : Document} {name : String}
  {value old : Value}

theorem exists_split_of_get? (found : document.get? name = some value) :
    ∃ before after : Document,
      document = before ++ (name, value) :: after ∧ name ∉ before.keys := by
  induction document with
  | nil => cases found
  | cons entry rest ih =>
    rcases entry with ⟨key, first⟩
    rw [get?_cons] at found
    split at found
    · next same =>
      cases found
      exact ⟨[], rest, by rw [same, List.nil_append], by simp [keys]⟩
    · next different =>
      rcases ih found with ⟨before, after, rfl, absent⟩
      exact ⟨(key, first) :: before, after, rfl,
        List.not_mem_cons_of_ne_of_not_mem (Ne.symm different) absent⟩

theorem insert_split (absent : name ∉ before.keys) (old value : Value)
    (after : Document) :
    insert (before ++ (name, old) :: after) name value =
      before ++ (name, value) :: after := by
  induction before with
  | nil => simp [insert]
  | cons entry rest ih =>
    simp only [keys, List.map_cons, List.mem_cons, not_or] at absent
    rw [List.cons_append, insert, if_neg (Ne.symm absent.1), ih absent.2]
    rfl

theorem erase_split (absent : name ∉ before.keys) (old : Value)
    (after : Document) :
    erase (before ++ (name, old) :: after) name = before ++ after := by
  induction before with
  | nil => simp [erase]
  | cons entry rest ih =>
    simp only [keys, List.map_cons, List.mem_cons, not_or] at absent
    rw [List.cons_append, erase, if_neg (Ne.symm absent.1), ih absent.2]
    rfl

/-- A name that is there keeps its place, whatever is added. -/
theorem insert_comm_of_mem (there : name ∈ document.keys) {other : String}
    (different : name ≠ other) (value added : Value) :
    (document.insert other added).insert name value =
      (document.insert name value).insert other added := by
  induction document with
  | nil => simp [keys] at there
  | cons entry rest ih =>
    rcases entry with ⟨key, first⟩
    by_cases here : key = name
    · subst here
      simp [insert, different]
    · have later : name ∈ keys rest :=
        List.mem_of_ne_of_mem (Ne.symm here) there
      by_cases same : key = other
      · subst same
        simp [insert, here]
      · simp [insert, here, same, ih later]

/-! ## An `_id` that is read as an identifier -/

theorem meets_split {id : Value} (literal : Filter.operators? id = none) :
    document.meets (before ++ ("_id", id) :: after) =
      match document.meets before with
      | .ok true =>
        if document.isIdentifiedBy id then document.meets after else .ok false
      | other => other := by
  rw [Filter.meets_append]
  rcases document.meets before with failure | _ | _
  · rfl
  · rfl
  · simp only [Document.meets, Filter.matchesEntries, matchesEntry_id literal]
    cases document.isIdentifiedBy id <;> rfl

/-- A document that a filter passes over after its `_id` was read as an
identifier, is passed over by the filter itself, unless its `_id` is the text
and not the identifier; then the other entries decide. -/
theorem meets_of_meets_reread {filter : Document} {text : String}
    {id : ObjectId} {met : Bool}
    (asked : filter.get? "_id" = some (.string text))
    (evaluated :
      document.meets (filter.insert "_id" (.objectId id)) = .ok met) :
    (met = false → document.meets filter = .ok false) ↔
      (document.isIdentifiedBy (.string text) = true →
        document.isIdentifiedBy (.objectId id) = false →
        document.meets (filter.erase "_id") = .ok false) := by
  rcases exists_split_of_get? asked with ⟨before, after, rfl, absent⟩
  rw [insert_split absent, meets_split rfl] at evaluated
  rw [erase_split absent, meets_split rfl, Filter.meets_append]
  rcases reached : document.meets before with failure | _ | _
  · rw [reached] at evaluated
    cases evaluated
  · simp
  · rw [reached] at evaluated
    cases byText : document.isIdentifiedBy (.string text) <;>
      cases byIdentifier : document.isIdentifiedBy (.objectId id) <;>
        simp_all

end Document

/-! ## The filter of the same conditions -/

namespace Predicates

theorem expressed_change_literal (field : String) (value : Value)
    (fields : List (String × Predicate)) :
    expressed (change (fun _ => .literal value) field fields) =
      Document.insert (expressed fields) field value := by
  induction fields with
  | nil => rfl
  | cons entry rest ih =>
    rcases entry with ⟨known, predicate⟩
    simp only [expressed, List.map_cons] at ih ⊢
    by_cases same : known = field
    · simp [change, Document.insert, same, Predicate.toValue]
    · simp [change, Document.insert, same, ih]

/-- A literal for a field that the filter names goes to its place in the
filter. -/
theorem compile_setLiteral {predicates : Predicates} {field : String}
    (distinct : (predicates.fields.map Prod.fst).Nodup)
    (apart : field ≠ "$or") {old : Value}
    (named : predicates.compile.get? field = some old) (value : Value) :
    (predicates.setLiteral field value).compile =
      predicates.compile.insert field value := by
  rw [← keys_expressed] at distinct
  have fields : (predicates.setLiteral field value).fields =
      change (fun _ => .literal value) field predicates.fields := rfl
  have branches : (predicates.setLiteral field value).branches =
      predicates.branches := rfl
  rw [compile_eq_merge, fields, branches, expressed_change_literal,
    Document.merge_nil_of_distinct (Document.distinct_insert distinct _ _)]
  rw [compile_eq_merge, Document.merge_nil_of_distinct distinct] at named ⊢
  cases given : predicates.branches with
  | none => rfl
  | some branches =>
    rw [given, Option.elim_some, Document.get?_insert_ne _ (Ne.symm apart)]
      at named
    have there : field ∈ (expressed predicates.fields).keys := by
      by_contra absent
      rw [Document.get?_eq_none_iff.mpr absent] at named
      cases named
    exact (Document.insert_comm_of_mem there apart _ _).symm

end Predicates

namespace Operation

variable {filter : Document}

theorem withIdentifier_of_plain
    (plain : ∀ text, filter.get? "_id" = some (.string text) →
      ObjectId.ofHex? text = none) : withIdentifier filter = filter := by
  unfold withIdentifier
  split
  · next text asked => rw [plain text asked]
  · rfl

theorem withIdentifier_of_digits {text : String} {id : ObjectId}
    (asked : filter.get? "_id" = some (.string text))
    (digits : ObjectId.ofHex? text = some id) :
    withIdentifier filter = filter.insert "_id" (.objectId id) := by
  simp only [withIdentifier, asked, digits]

end Operation

namespace QueryBuilder

variable {builder : QueryBuilder} {store : MemoryStore} {collection : String}

/-- State conditions one after the other. -/
def requireAll (builder : QueryBuilder) (conditions : List Condition) :
    QueryBuilder :=
  (conditions.map Directive.condition).foldl follow builder

theorem requireAll_concat (builder : QueryBuilder)
    (conditions : List Condition) (last : Condition) :
    builder.requireAll (conditions ++ [last]) =
      (builder.requireAll conditions).follow (.condition last) := by
  simp [requireAll]

theorem predicates_requireAll (builder : QueryBuilder)
    (conditions : List Condition) :
    (builder.requireAll conditions).envelope.predicates =
      conditions.foldl Predicates.require builder.envelope.predicates := by
  rw [requireAll, List.foldl_map]
  exact (List.foldl_hom (fun reached : QueryBuilder =>
    reached.envelope.predicates) fun _ _ => rfl).symm

/-- Conditions leave the bounds of the page alone. -/
theorem bounds_requireAll (builder : QueryBuilder)
    (conditions : List Condition) :
    (builder.requireAll conditions).envelope.limit = builder.envelope.limit ∧
      (builder.requireAll conditions).envelope.offset =
        builder.envelope.offset := by
  rw [requireAll, List.foldl_map]
  constructor
  · refine foldl_unchanged (fun reached : QueryBuilder =>
      reached.envelope.limit) ?_ conditions builder
    exact fun _ _ => rfl
  · refine foldl_unchanged (fun reached : QueryBuilder =>
      reached.envelope.offset) ?_ conditions builder
    exact fun _ _ => rfl

/-- With the usual bounds nothing is counted exactly if every document is seen
not to match. -/
theorem counted_eq_zero_iff
    (limit : builder.envelope.limit = Envelope.defaultLimit)
    (offset : builder.envelope.offset = Envelope.defaultOffset)
    (named : Text.trim collection ≠ "") :
    builder.counted store collection = .ok 0 ↔
      ∀ document ∈ store.documents (Text.trim collection),
        document.meets builder.snapshot.filter = .ok false := by
  rw [← MemoryStore.select_eq_nil_iff, counted_eq, if_neg named]
  cases store.select (Text.trim collection) builder.snapshot.filter with
  | error source => simp
  | ok found =>
    have most : builder.snapshot.limit.toNat = 999999 := by
      rw [snapshot, Envelope.compile, limit]
      rfl
    have first : builder.snapshot.offset.toNat = 0 := by
      rw [snapshot, Envelope.compile, offset]
      rfl
    simp only [Request.length_shown, most, first, Except.ok.injEq]
    rw [MemoryStore.counted, if_neg (by decide), ← List.length_eq_zero_iff]
    omega

/-- What comes of deleting all matches in a store in memory. -/
def deletion (builder : QueryBuilder) (store : MemoryStore)
    (collection : String) : Run MemoryStore Bool :=
  builder.run Store.memory store (.deleteAll collection)

/-- A deletion that succeeds has removed the documents that meet the filter
with the `_id` read as an identifier, and the next query starts empty. -/
theorem deleted_of_ok {answer : Bool}
    (deleted : (builder.deletion store collection).result = .ok answer) :
    Text.trim collection ≠ "" ∧
      (builder.deletion store collection).builder.envelope = .empty ∧
      ∃ found,
        store.select (Text.trim collection)
            (Operation.withIdentifier builder.snapshot.filter) = .ok found ∧
        (builder.deletion store collection).state.documents
            (Text.trim collection) =
          (store.documents (Text.trim collection)).filter fun document =>
            !document.satisfies
              (Operation.withIdentifier builder.snapshot.filter) := by
  rw [deletion] at deleted ⊢
  rcases check_cases builder (.deleteAll collection) with
    ⟨-, fault, missing⟩ | ⟨complete, checked⟩
  · rw [run_of_fault missing] at deleted
    cases deleted
  · have named : Text.trim collection ≠ "" := by
      intro blank
      exact complete (Or.inl ⟨collection, rfl, blank⟩)
    refine ⟨named, by rw [builder_of_run deleted], ?_⟩
    cases searched : store.select (Text.trim collection)
        (Operation.withIdentifier builder.snapshot.filter) with
    | error source =>
      have refused : (Store.memory.answer store
          (Operation.call builder.defaults
            (Operation.deleteAll collection).place
            (Operation.request builder.envelope (.deleteAll collection))
            (.deleteAll collection))).result = .error source :=
        MemoryStore.remove_of_select_error searched _
      simp only [run, checked, refused, Except.bind] at deleted
      cases deleted
    | ok found =>
      refine ⟨found, rfl, ?_⟩
      have all : MemoryStore.isSet (builder.defaults.removal false) "justOne" =
          false := by
        rw [MemoryStore.isSet, WriteDefaults.removal_get?_justOne]
      have removed := (MemoryStore.remove_of_select searched
        (builder.defaults.removal false)).2
      rw [all, if_neg Bool.false_ne_true] at removed
      rw [state_of_run checked]
      exact removed

/-- The filter of conditions that are stated from the beginning. -/
theorem filter_requireAll (unconditioned : builder.envelope.predicates = .empty)
    (conditions : List Condition) :
    (builder.requireAll conditions).snapshot.filter =
      (conditions.foldl Predicates.require .empty).compile := by
  rw [← unconditioned, ← predicates_requireAll]
  rfl

/-- Asking for an identifier as well changes the filter where it asks for the
`_id`. -/
theorem filter_requireAll_identifier
    (unconditioned : builder.envelope.predicates = .empty)
    (conditions : List Condition) {old : Value}
    (asked : (builder.requireAll conditions).snapshot.filter.get? "_id" =
      some old) (id : Value) :
    (builder.requireAll (conditions ++ [.equal "_id" id])).snapshot.filter =
      (builder.requireAll conditions).snapshot.filter.insert "_id" id := by
  simp only [filter_requireAll unconditioned] at asked ⊢
  rw [List.foldl_append]
  refine Predicates.compile_setLiteral ?_ (by decide) asked id
  rw [Predicates.fields_foldl_require, Grouping.map_fst_grouped]
  exact Grouping.nodup_keysOf _

/-- A query after a deletion counts nothing exactly if its filter passes over
all documents that the deletion passed over. -/
theorem counted_after_deletion_iff {answer : Bool}
    (deleted : (builder.deletion store collection).result = .ok answer)
    (conditions : List Condition) :
    ((builder.deletion store collection).builder.requireAll conditions).counted
        (builder.deletion store collection).state collection = .ok 0 ↔
      ∀ document ∈ store.documents (Text.trim collection),
        document.satisfies
            (Operation.withIdentifier builder.snapshot.filter) = false →
          document.meets (conditions.foldl Predicates.require .empty).compile =
            .ok false := by
  rcases deleted_of_ok deleted with ⟨named, fresh, found, searched, left⟩
  have bounds := bounds_requireAll (builder.deletion store collection).builder
    conditions
  have unconditioned :
      (builder.deletion store collection).builder.envelope.predicates =
        .empty := congrArg Envelope.predicates fresh
  rw [counted_eq_zero_iff
    (bounds.1.trans (congrArg Envelope.limit fresh))
    (bounds.2.trans (congrArg Envelope.offset fresh)) named,
    filter_requireAll unconditioned, left]
  simp only [List.mem_filter, Bool.not_eq_true', and_imp]

/-- All that some conditions select is deleted, and the same conditions are
stated again.  If their filter asks for no `_id` that is written as an
identifier, nothing is counted.  If it does, the count is zero exactly if the
rest of the filter passes over every document whose `_id` is the text and not
the identifier; and with the identifier in the place of the text nothing is
counted in any case. -/
theorem counted_of_deletion
    (unconditioned : builder.envelope.predicates = .empty)
    (conditions : List Condition) {answer : Bool}
    (deleted : ((builder.requireAll conditions).deletion store
      collection).result = .ok answer) :
    let filter := (builder.requireAll conditions).snapshot.filter
    let after := (builder.requireAll conditions).deletion store collection
    let again := after.builder.requireAll conditions
    ((∀ text, filter.get? "_id" = some (.string text) →
        ObjectId.ofHex? text = none) →
      again.counted after.state collection = .ok 0) ∧
    ∀ text id, filter.get? "_id" = some (.string text) →
      ObjectId.ofHex? text = some id →
        (again.counted after.state collection = .ok 0 ↔
          ∀ document ∈ store.documents (Text.trim collection),
            document.isIdentifiedBy (.string text) = true →
            document.isIdentifiedBy (.objectId id) = false →
            document.meets (filter.erase "_id") = .ok false) ∧
        (again.follow (.condition (.equal "_id" (.objectId id)))).counted
          after.state collection = .ok 0 := by
  intro filter after again
  rcases deleted_of_ok deleted with ⟨-, -, found, searched, -⟩
  have evaluated := MemoryStore.meets_of_select searched
  have compiled : filter =
      (conditions.foldl Predicates.require .empty).compile :=
    filter_requireAll unconditioned conditions
  constructor
  · intro plain
    rw [counted_after_deletion_iff deleted, ← compiled]
    intro document member unsatisfied
    have met := evaluated document member
    rwa [unsatisfied, Operation.withIdentifier_of_plain plain] at met
  · intro text id asked digits
    have reread := Operation.withIdentifier_of_digits asked digits
    constructor
    · rw [counted_after_deletion_iff deleted, ← compiled]
      refine forall₂_congr fun document member => ?_
      have met := evaluated document member
      rw [reread] at met ⊢
      exact Document.meets_of_meets_reread asked met
    · rw [← requireAll_concat, counted_after_deletion_iff deleted,
        ← filter_requireAll unconditioned,
        filter_requireAll_identifier unconditioned conditions asked, ← reread]
      intro document member unsatisfied
      rw [evaluated document member, unsatisfied]

/-- An identifier and its digits, as the `_id` of one document each. -/
def textualStore : MemoryStore :=
  (MemoryStore.empty "sample" default).run
    [.insert "c" [("_id", .objectId ⟨0x0123456789abcdef01234567⟩)] [],
      .insert "c" [("_id", .string "0123456789abcdef01234567")] []]

/-- The digits are asked for. -/
def textualConditions : List Condition :=
  [.equal "_id" (.string "0123456789abcdef01234567")]

/-- The deletion takes the document with the identifier away; it is gone, but
the one with the digits is not. -/
theorem counted_of_deletion_textual :
    let after := (new.requireAll textualConditions).deletion textualStore "c"
    let again := after.builder.requireAll textualConditions
    new.envelope.predicates = .empty ∧ after.result = .ok true ∧
      again.counted after.state "c" ≠ .ok 0 ∧
      (again.follow (.condition (.equal "_id"
        (.objectId ⟨0x0123456789abcdef01234567⟩)))).counted after.state "c" =
          .ok 0 := by
  intro after again
  have deleted : after.result = .ok true := by decide +kernel
  have asked : (new.requireAll textualConditions).snapshot.filter.get? "_id" =
      some (.string "0123456789abcdef01234567") := rfl
  have digits : ObjectId.ofHex? "0123456789abcdef01234567" =
      some ⟨0x0123456789abcdef01234567⟩ := by decide +kernel
  rcases (counted_of_deletion rfl textualConditions deleted).2 _ _ asked digits
    with ⟨counted, gone⟩
  refine ⟨rfl, deleted, ?_, gone⟩
  intro nothing
  have stored : [("_id", .string "0123456789abcdef01234567")] ∈
      textualStore.documents (Text.trim "c") :=
    List.mem_of_getElem? (show _[1]? = some _ from rfl)
  have unmet := counted.mp nothing _ stored (by decide +kernel)
    (by decide +kernel)
  cases unmet

/-- Counting again counts a document that the deletion passed over. -/
theorem counted_ne_zero_of_textual :
    ((new.requireAll textualConditions).deletion textualStore "c").result =
        .ok true ∧
      (((new.requireAll textualConditions).deletion textualStore
          "c").builder.requireAll textualConditions).counted
        ((new.requireAll textualConditions).deletion textualStore "c").state
          "c" = .ok 1 := by
  decide +kernel

end QueryBuilder

end DocQuery
