import DocQuery.Proofs.QueryBuilder.Exchange
import DocQuery.Proofs.Store.Idle
import DocQuery.Proofs.Store.Rewriting

/-!
# The safety key

The options of a write name the safety key first, then what the operation is
about, then what the caller gives.  The store reads three options: `multiple`
and `upsert` of an update, `justOne` of a removal.  An operation gives
`multiple` and `justOne` itself, so a safety key of such a name is written
over.  Nothing is written over `upsert` unless the caller does so.

A builder is therefore compared with one that has another key: the calls that
they make are told apart by nothing but the option `upsert` of an update, and
that option by nothing but an update that finds no document.
-/

namespace DocQuery

open Store (Call Reply)

/-! ## The options of an update -/

namespace WriteDefaults

variable {options : Document}

theorem update_get?_upsert (defaults : WriteDefaults) (multiple : Bool) :
    (defaults.update multiple).get? "upsert" =
      if defaults.safetyKey = "upsert" then some (.boolean true)
      else none := by
  rw [update, Document.get?_insert_ne _ (by decide), base,
    Document.get?_cons]
  rfl

/-- The options of an update with those of the caller. -/
def updateWith (defaults : WriteDefaults) (multiple : Bool)
    (options : Document) : Document :=
  (defaults.update multiple).merge options

theorem get?_multiple_updateWith (distinct : options.Distinct)
    (defaults : WriteDefaults) (multiple : Bool) :
    (defaults.updateWith multiple options).get? "multiple" =
      (options.get? "multiple").or (some (.boolean multiple)) := by
  rw [updateWith, (Document.overlaid_merge _ distinct).values,
    update_get?_multiple]

theorem get?_upsert_updateWith (distinct : options.Distinct)
    (defaults : WriteDefaults) (multiple : Bool) :
    (defaults.updateWith multiple options).get? "upsert" =
      (options.get? "upsert").or
        (if defaults.safetyKey = "upsert" then some (.boolean true)
          else none) := by
  rw [updateWith, (Document.overlaid_merge _ distinct).values,
    update_get?_upsert]

end WriteDefaults

/-! ## Updates with and without the option `upsert` -/

namespace Collection

variable {collection : Collection} {filter : Document}

/-- A newcomer does not matter unless the search succeeds and delivers
nothing. -/
theorem update_of_find_ne (searched : collection.find filter ≠ .ok [])
    (change : Document) (all : Bool)
    (first second : Option (Except StoreError Document)) :
    collection.update filter change all first =
      collection.update filter change all second := by
  simp only [update, bind]
  cases delivered : collection.find filter with
  | error failure =>
      simp only [select_of_find_error delivered, Except.bind]
  | ok found =>
      rcases find_eq_ok delivered with ⟨members, marks⟩
      have some_hit : Marked.hits (collection.mark filter) ≠ [] := by
        rw [mark, Marked.hits_mark, ← members]
        rintro rfl
        exact searched delivered
      have concerned : (if all then collection.mark filter
          else Marked.firstOnly (collection.mark filter)).any Marked.hit =
          true := by
        rw [← Bool.not_eq_false, ← Marked.hits_eq_nil_iff]
        cases all with
        | true => exact some_hit
        | false => simpa [Marked.hits_firstOnly] using some_hit
      simp only [marks all, Except.bind, concerned, if_true]

end Collection

namespace MemoryStore

variable {store : MemoryStore} {name : String}
  {filter change first second options : Document} {report : UpdateReport}

/-- An update of a builder has the option `upsert` set if the caller sets it, or
says nothing of it and the safety key is of this name. -/
theorem isSet_upsert_updateWith (distinct : options.Distinct)
    (defaults : WriteDefaults) (multiple : Bool) :
    isSet (defaults.updateWith multiple options) "upsert" =
      match options.get? "upsert" with
      | some _ => isSet options "upsert"
      | none => decide (defaults.safetyKey = "upsert") := by
  simp only [isSet, WriteDefaults.get?_upsert_updateWith distinct]
  rcases options.get? "upsert" with - | given
  · by_cases same : defaults.safetyKey = "upsert" <;> simp [same]
  · rfl

theorem isSet_multiple_updateWith (distinct : options.Distinct)
    (defaults other : WriteDefaults) (multiple : Bool) :
    isSet (defaults.updateWith multiple options) "multiple" =
      isSet (other.updateWith multiple options) "multiple" := by
  simp only [isSet, WriteDefaults.get?_multiple_updateWith distinct]

/-- The supply of identifiers does not matter to a write. -/
theorem write_supply {Answer : Type} (left right : ObjectId.Supply)
    (change : Collection → Except StoreError (Collection × Answer)) :
    ({ store with supply := left }.write name change).result =
        ({ store with supply := right }.write name change).result ∧
      ({ store with supply := left }.write name change).state.collections =
        ({ store with supply := right }.write name change
          ).state.collections := by
  have found (supply : ObjectId.Supply) :
      { store with supply := supply }.get? name = store.get? name := rfl
  simp only [write, found]
  split <;> exact ⟨rfl, rfl⟩

theorem newcomer_of_unset (unset : isSet options "upsert" = false) :
    newcomer store.supply filter change options = (none, store.supply) := by
  simp [newcomer, unset]

/-- An update reads two of its options. -/
theorem update_congr
    (multiple : isSet first "multiple" = isSet second "multiple")
    (upsert : isSet first "upsert" = isSet second "upsert") :
    store.update name filter change first =
      store.update name filter change second := by
  simp only [update, newcomer, multiple, upsert]

/-- The key `upsert` counts where the caller says nothing of the option of this
name. -/
theorem update_asking (distinct : options.Distinct)
    (silent : options.get? "upsert" = none) {defaults : WriteDefaults}
    (taken : defaults.safetyKey = "upsert") (other : WriteDefaults)
    (multiple : Bool) :
    store.update name filter change (defaults.updateWith multiple options) =
      store.update name filter change (other.updateWith multiple
        (options.insert "upsert" (.boolean true))) := by
  have asked : (options.insert "upsert" (.boolean true)).Distinct :=
    Document.distinct_insert distinct _ _
  apply update_congr
  · simp only [isSet, WriteDefaults.get?_multiple_updateWith distinct,
      WriteDefaults.get?_multiple_updateWith asked,
      Document.get?_insert_ne options (show "upsert" ≠ "multiple" by decide)]
  · rw [isSet_upsert_updateWith distinct, isSet_upsert_updateWith asked]
    simp only [silent, taken, isSet, Document.get?_insert_self, decide_true]

/-- If an update finds something, or cannot evaluate its filter, only one of
them makes a difference. -/
theorem update_of_select_ne (searched : store.select name filter ≠ .ok [])
    (change : Document)
    (multiple : isSet first "multiple" = isSet second "multiple") :
    (store.update name filter change first).result =
        (store.update name filter change second).result ∧
      (store.update name filter change first).state.collections =
        (store.update name filter change second).state.collections := by
  rw [select_eq_find] at searched
  have same := Collection.update_of_find_ne searched change
    (isSet second "multiple")
    (newcomer store.supply filter change first).1
    (newcomer store.supply filter change second).1
  have found (supply : ObjectId.Supply) :
      ({ store with supply := supply }.get? name).getD .empty =
        store.target name := rfl
  constructor
  · rw [result_update, result_update, multiple, same]
  · refine Eq.trans ?_ (write_supply
      (newcomer store.supply filter change first).2
      (newcomer store.supply filter change second).2
      fun collection => collection.update filter change
        (isSet second "multiple")
        (newcomer store.supply filter change second).1).2
    simp only [update, write, found, multiple, same]

theorem documents_extended_opening (opened other : String)
    (supply : ObjectId.Supply) :
    (store.extended (store.opening opened) supply).documents other =
      store.documents other := by
  rw [← put_target, documents_eq_target, documents_eq_target]
  by_cases here : other = opened
  · subst here
    rw [target, get?_put_self]
    rfl
  · rw [target, get?_put_ne _ here]
    rfl

/-- An update that succeeds leaves the documents that it makes of the
collection. -/
theorem documents_of_update
    (done : (store.update name filter change options).result = .ok report) :
    ∃ next, (store.target name).update filter change
          (isSet options "multiple")
          (newcomer store.supply filter change options).1 =
        .ok (next, report) ∧
      (store.update name filter change options).state.documents name =
        next.documents := by
  rcases exists_of_update_eq_ok done with ⟨next, updated, left⟩
  refine ⟨next, updated, ?_⟩
  simp only [answer] at left
  rw [documents, left]

/-- An update whose option `upsert` is not set stores no document. -/
theorem length_documents_of_unset (unset : isSet options "upsert" = false)
    (other : String) :
    ((store.update name filter change options).state.documents
      other).length = (store.documents other).length := by
  cases result : (store.update name filter change options).result with
  | error failure =>
      rw [state_update_of_failure result, documents_extended_opening]
  | ok report =>
      by_cases here : other = name
      · subst here
        rcases documents_of_update result with ⟨next, updated, left⟩
        rw [newcomer_of_unset unset] at updated
        rw [left, documents_eq_target]
        rcases Collection.rewrites_or_inserts_of_update updated with
          ⟨rewrites, -⟩ | ⟨-, -, ⟨-, rfl⟩ | ⟨made, given, -⟩⟩
        · exact rewrites.length
        · rfl
        · cases given
      · rw [documents, documents]
        simp only [update]
        rw [get?_write_ne _ here]
        rfl

/-- An update that finds nothing and whose option `upsert` is set stores one
document if it succeeds. -/
theorem documents_of_set (set : isSet options "upsert" = true)
    (searched : store.select name filter = .ok [])
    (done : (store.update name filter change options).result = .ok report) :
    ∃ document,
      (store.update name filter change options).state.documents name =
        store.documents name ++ [document] := by
  rcases documents_of_update done with ⟨next, updated, left⟩
  rw [select_eq_find] at searched
  rw [update_of_find_nil searched] at updated
  rw [left, documents_eq_target]
  cases made : (newcomer store.supply filter change options).1 with
  | none =>
      simp only [newcomer, set, if_true] at made
      split at made <;> cases made
  | some outcome =>
      simp only [made, bind_eq_ok_iff, map_eq_ok_iff] at updated
      rcases updated with ⟨document, -, after, stored, equal⟩
      rcases Prod.mk.inj equal with ⟨rfl, -⟩
      exact ⟨document, Collection.documents_of_insert stored⟩

theorem documents_congr {left right : MemoryStore}
    (same : left.collections = right.collections) (name : String) :
    left.documents name = right.documents name := by
  simp only [documents, get?, same]

/-- An update that finds nothing shows whether its option `upsert` is set,
however its report is read. -/
theorem update_ne_of_select_nil {Result : Type}
    (searched : store.select name filter = .ok [])
    (set : isSet first "upsert" = true)
    (unset : isSet second "upsert" = false) (read : UpdateReport → Result)
    (result : (store.update name filter change first).result.map read =
      (store.update name filter change second).result.map read) :
    (store.update name filter change first).state.collections ≠
      (store.update name filter change second).state.collections := by
  have found := (select_eq_find store name filter).symm.trans searched
  have reported : (store.update name filter change second).result =
      .ok ⟨0, 0⟩ := by
    rw [result_update, newcomer_of_unset unset, update_of_find_nil found]
    rfl
  rw [reported] at result
  rcases map_eq_ok_iff.mp result with ⟨report, done, -⟩
  rcases documents_of_set set searched done with ⟨document, stored⟩
  intro same
  have lengths := congrArg List.length (documents_congr same name)
  rw [stored, length_documents_of_unset unset name,
    List.length_append, List.length_singleton] at lengths
  omega

end MemoryStore

/-! ## What a store in memory says to an operation -/

namespace Operation

/-- What comes of the call of an operation, as far as its result goes. -/
def replied (operation : Operation) (defaults : WriteDefaults)
    (target : String) (request : Request) (store : MemoryStore) :
    Reply MemoryStore operation.Result :=
  let reply := store.answer (operation.call defaults target request)
  ⟨reply.result.bind (operation.read defaults target request), reply.state,
    reply.lines⟩

/-- The options that the caller gives to an update. -/
def updateOptions? : Operation → Option Document
  | .update _ options | .updateAll _ options => some options
  | _ => none

/-- The caller gives each option once. -/
def Unambiguous (operation : Operation) : Prop :=
  ∀ options ∈ operation.options?, options.Distinct

variable {operation : Operation} {options : Document}

theorem Unambiguous.of_updating (distinct : operation.Unambiguous)
    (updating : operation.updateOptions? = some options) :
    options.Distinct := by
  apply distinct
  cases operation with
  | update | updateAll => exact updating
  | _ => cases updating

/-- The usual options do not matter to an operation that is no update. -/
theorem replied_of_not_update (other : operation.updateOptions? = none)
    (first second : WriteDefaults) (target : String) (request : Request)
    (store : MemoryStore) :
    operation.replied first target request store =
      operation.replied second target request store := by
  have removal (justOne : Bool) :
      store.remove target request.filter (first.removal justOne) =
        store.remove target request.filter (second.removal justOne) := by
    simp only [MemoryStore.remove, MemoryStore.isSet,
      WriteDefaults.removal_get?_justOne]
  cases operation with
  | update | updateAll => cases other
  | delete | deleteAll =>
      simp only [replied, call, MemoryStore.answer, removal]
      rfl
  | _ => rfl

/-- An update of the first match and one of all matches differ in an option
that they set themselves. -/
theorem replied_of_update (updating : operation.updateOptions? = some options) :
    ∃ (multiple : Bool) (read : UpdateReport → operation.Result),
      ∀ defaults target request store,
        operation.replied defaults target request store =
          let reply := MemoryStore.update store target request.filter
            request.update (defaults.updateWith multiple options)
          ⟨reply.result.map read, reply.state, reply.lines⟩ := by
  cases operation with
  | update collection given =>
      cases updating
      exact ⟨false, matchedCount?, fun _ _ _ _ => rfl⟩
  | updateAll collection given =>
      cases updating
      exact ⟨true, matchedCount?, fun _ _ _ _ => rfl⟩
  | _ => cases updating

/-! ## What a safety key changes -/

/-- A safety key is taken for a request to store a document: it is `upsert`,
and an update that does not say whether it asks for that finds nothing. -/
structure Strays (operation : Operation) (key : String) (target : String)
    (request : Request) (store : MemoryStore) : Prop where
  key : key = "upsert"
  silent : ∃ options, operation.updateOptions? = some options ∧
    options.get? "upsert" = none
  unmet : store.select target request.filter = .ok []

/-- The defaults of a builder that was not configured. -/
abbrev usualDefaults : WriteDefaults := ⟨WriteDefaults.usualSafetyKey⟩

/-- Unless the safety key is `upsert` it makes no difference. -/
theorem replied_of_key_ne (distinct : operation.Unambiguous)
    {defaults : WriteDefaults} (other : defaults.safetyKey ≠ "upsert")
    (target : String) (request : Request) (store : MemoryStore) :
    operation.replied defaults target request store =
      operation.replied usualDefaults target request store := by
  cases updating : operation.updateOptions? with
  | none => exact replied_of_not_update updating _ _ target request store
  | some options =>
      rcases replied_of_update updating with ⟨multiple, read, replied⟩
      have proper := distinct.of_updating updating
      have upsert : MemoryStore.isSet
          (defaults.updateWith multiple options) "upsert" =
          MemoryStore.isSet
            (usualDefaults.updateWith multiple options) "upsert" := by
        simp only [MemoryStore.isSet_upsert_updateWith proper, other]
        rfl
      rw [replied, replied, MemoryStore.update_congr
        (MemoryStore.isSet_multiple_updateWith proper _ _ _) upsert]

/-- A safety key makes a difference exactly if it is taken for that. -/
theorem replied_alike_iff (distinct : operation.Unambiguous)
    (defaults : WriteDefaults) (target : String) (request : Request)
    (store : MemoryStore) :
    ((operation.replied defaults target request store).result =
          (operation.replied usualDefaults target request store).result ∧
        (operation.replied defaults target request store).state.collections =
          (operation.replied usualDefaults target request store
            ).state.collections) ↔
      ¬operation.Strays defaults.safetyKey target request store := by
  by_cases key : defaults.safetyKey = "upsert"
  case neg =>
    rw [replied_of_key_ne distinct key]
    exact iff_of_true ⟨rfl, rfl⟩ fun stray => key stray.key
  cases updating : operation.updateOptions? with
  | none =>
      rw [replied_of_not_update updating defaults usualDefaults]
      refine iff_of_true ⟨rfl, rfl⟩ fun stray => ?_
      rcases stray.silent with ⟨options, given, -⟩
      cases updating.symm.trans given
  | some options =>
      rcases replied_of_update updating with ⟨multiple, read, replied⟩
      have proper := distinct.of_updating updating
      have same := MemoryStore.isSet_multiple_updateWith proper defaults
        usualDefaults multiple
      have upsert := MemoryStore.isSet_upsert_updateWith proper defaults
        multiple
      have usually := MemoryStore.isSet_upsert_updateWith proper
        usualDefaults multiple
      simp only [replied]
      cases given : options.get? "upsert" with
      | some value =>
          -- The caller decides, whatever the key.
          simp only [given] at upsert usually
          rw [MemoryStore.update_congr same (upsert.trans usually.symm)]
          refine iff_of_true ⟨rfl, rfl⟩ fun stray => ?_
          rcases stray.silent with ⟨others, there, absent⟩
          cases updating.symm.trans there
          cases given.symm.trans absent
      | none =>
          simp only [given, key, decide_true] at upsert
          simp only [given] at usually
          by_cases searched : store.select target request.filter = .ok []
          · refine iff_of_false ?_ fun plain => plain
              ⟨key, ⟨options, updating, given⟩, searched⟩
            rintro ⟨result, collections⟩
            exact MemoryStore.update_ne_of_select_nil searched upsert usually
              read result collections
          · rcases MemoryStore.update_of_select_ne searched request.update
              same with ⟨result, collections⟩
            exact iff_of_true ⟨congrArg _ result, collections⟩
              fun stray => searched stray.unmet

end Operation

/-! ## Builders with different keys -/

namespace QueryBuilder

variable {builder : QueryBuilder} {store : MemoryStore} {key : String}
  {operation : Operation} {options : Document}

/-- Two runs have the same result and leave the same collections, with the
same documents and indexes. -/
@[mk_iff]
structure Alike {Result : Type} (first second : Run MemoryStore Result) :
    Prop where
  result : first.result = second.result
  collections : first.state.collections = second.state.collections

/-- The same builder with other defaults. -/
def withDefaults (builder : QueryBuilder) (defaults : WriteDefaults) :
    QueryBuilder :=
  { builder with defaults }

/-- The same run of a builder with other defaults. -/
def runWithDefaults {Result : Type} (run : Run MemoryStore Result)
    (defaults : WriteDefaults) : Run MemoryStore Result :=
  { run with builder := run.builder.withDefaults defaults }

/-- A run, given what the store says. -/
def concluded (builder : QueryBuilder) (operation : Operation)
    (reply : Reply MemoryStore operation.Result) :
    Run MemoryStore operation.Result :=
  match reply.result with
  | .error source =>
    ⟨.error (.store operation.action operation.place source),
      { builder with envelope := operation.envelope builder.envelope },
      reply.state, reply.lines⟩
  | .ok result =>
    let log := (builder.requested operation).toLog operation.place
      operation.action
    ⟨.ok result, builder.record log, reply.state,
      reply.lines ++ [Trace.requestLine log]⟩

theorem run_eq_concluded (builder : QueryBuilder)
    (complete : operation.check builder.envelope.updates =
      .ok operation.place) :
    builder.run Store.memory store operation =
      builder.concluded operation (operation.replied builder.defaults
        operation.place (builder.requested operation) store) := by
  rw [← request_eq_requested]
  simp only [run, complete, concluded, ← request_eq_requested]
  rfl

theorem requested_withDefaults (builder : QueryBuilder)
    (defaults : WriteDefaults) (operation : Operation) :
    (builder.withDefaults defaults).requested operation =
      builder.requested operation := by
  cases operation <;> rfl

theorem concluded_withDefaults (defaults : WriteDefaults)
    (reply : Reply MemoryStore operation.Result) :
    (builder.withDefaults defaults).concluded operation reply =
      runWithDefaults (builder.concluded operation reply) defaults := by
  rcases reply with ⟨failed | answered, _, _⟩
  · rfl
  · simp only [concluded, requested_withDefaults]
    rfl

/-- A builder with other defaults tells the store something else, and treats
what the store says alike. -/
theorem run_withDefaults
    (complete : operation.check builder.envelope.updates =
      .ok operation.place) (defaults : WriteDefaults) :
    (builder.withDefaults defaults).run Store.memory store operation =
      runWithDefaults (builder.concluded operation (operation.replied defaults
        operation.place (builder.requested operation) store)) defaults := by
  rw [← concluded_withDefaults, ← requested_withDefaults builder defaults]
  exact run_eq_concluded (builder.withDefaults defaults) complete

theorem run_withDefaults_of_fault {fault : Fault}
    (missing : operation.check builder.envelope.updates = .error fault)
    (defaults : WriteDefaults) :
    (builder.withDefaults defaults).run Store.memory store operation =
      runWithDefaults (builder.run Store.memory store operation)
        defaults := by
  have refused : operation.check
      (builder.withDefaults defaults).envelope.updates = .error fault :=
    missing
  rw [run_of_fault missing, run_of_fault refused]
  rfl

theorem alike_concluded_iff (defaults : WriteDefaults)
    {left right : Reply MemoryStore operation.Result} :
    Alike (runWithDefaults (builder.concluded operation left) defaults)
        (builder.concluded operation right) ↔
      left.result = right.result ∧
        left.state.collections = right.state.collections := by
  rcases left with ⟨left | left, _, _⟩ <;>
    rcases right with ⟨right | right, _, _⟩ <;>
      simp [concluded, runWithDefaults, alike_iff]

/-- An operation that lacks nothing takes the safety key for a request to store
a document. -/
structure Misreads (builder : QueryBuilder) (key : String)
    (store : MemoryStore) (operation : Operation) : Prop where
  complete : ¬builder.Lacks operation
  strays : operation.Strays key operation.place builder.snapshot store

theorem requested_of_update
    (updating : operation.updateOptions? = some options) :
    builder.requested operation = builder.snapshot := by
  cases operation with
  | update | updateAll => rfl
  | _ => cases updating

variable {defaults : WriteDefaults}

/-- A builder with a safety key and one with the usual key do alike unless the
key is misread. -/
theorem alike_iff_not_misreads (distinct : operation.Unambiguous)
    (usual : builder.defaults = Operation.usualDefaults) :
    Alike ((builder.withDefaults defaults).run Store.memory store operation)
        (builder.run Store.memory store operation) ↔
      ¬builder.Misreads defaults.safetyKey store operation := by
  rcases check_cases builder operation with
    ⟨lacks, fault, missing⟩ | ⟨lacksNothing, complete⟩
  · rw [run_withDefaults_of_fault missing]
    exact iff_of_true ⟨rfl, rfl⟩ fun misreads => misreads.complete lacks
  · rw [run_withDefaults complete, run_eq_concluded builder complete,
      alike_concluded_iff, usual]
    refine (Operation.replied_alike_iff distinct defaults operation.place
      (builder.requested operation) store).trans (not_congr ?_)
    constructor
    · intro strays
      rcases strays.silent with ⟨options, updating, -⟩
      rw [requested_of_update updating] at strays
      exact ⟨lacksNothing, strays⟩
    · rintro ⟨-, strays⟩
      rcases strays.silent with ⟨options, updating, -⟩
      rwa [requested_of_update updating]

/-- A key of another name than `upsert` makes no difference. -/
theorem run_of_key_ne (distinct : operation.Unambiguous)
    (usual : builder.defaults = Operation.usualDefaults)
    (other : defaults.safetyKey ≠ "upsert") :
    (builder.withDefaults defaults).run Store.memory store operation =
      runWithDefaults (builder.run Store.memory store operation)
        defaults := by
  rcases check_cases builder operation with
    ⟨-, fault, missing⟩ | ⟨-, complete⟩
  · exact run_withDefaults_of_fault missing defaults
  · rw [run_withDefaults complete, run_eq_concluded builder complete, usual,
      Operation.replied_of_key_ne distinct other]

theorem state_concluded (reply : Reply MemoryStore operation.Result) :
    (builder.concluded operation reply).state = reply.state := by
  unfold concluded
  split <;> rfl

theorem result_of_concluded {reply : Reply MemoryStore operation.Result}
    {result : operation.Result}
    (done : (builder.concluded operation reply).result = .ok result) :
    reply.result = .ok result := by
  rcases reply with ⟨failed | answered, _, _⟩
  · cases done
  · exact congrArg Except.ok (Except.ok.inj done)

/-- An update of a builder does to the store what the store does when it is
asked for an update with the options over the defaults. -/
theorem exists_update_of_run (builder : QueryBuilder) (store : MemoryStore)
    (complete : ¬builder.Lacks operation)
    (updating : operation.updateOptions? = some options) :
    ∃ multiple : Bool,
      let reply := store.update operation.place builder.snapshot.filter
        builder.snapshot.update (builder.defaults.updateWith multiple options)
      (builder.run Store.memory store operation).state = reply.state ∧
        ∀ result,
          (builder.run Store.memory store operation).result = .ok result →
            ∃ report, reply.result = .ok report := by
  have checked := (check_cases builder operation).resolve_left
    fun lacks => complete lacks.1
  rcases Operation.replied_of_update updating with ⟨multiple, read, replied⟩
  refine ⟨multiple, ?_, fun result done => ?_⟩
  · rw [run_eq_concluded builder checked.2, state_concluded, replied,
      requested_of_update updating]
  · rw [run_eq_concluded builder checked.2] at done
    have answered := result_of_concluded done
    rw [replied, requested_of_update updating] at answered
    rcases map_eq_ok_iff.mp answered with ⟨report, answered, -⟩
    exact ⟨report, answered⟩

/-- An update for which the caller does not ask for a new document stores
none, unless the key is misread. -/
theorem length_documents_of_run (distinct : operation.Unambiguous)
    (usual : builder.defaults = Operation.usualDefaults)
    (updating : operation.updateOptions? = some options)
    (unasked : MemoryStore.isSet options "upsert" = false)
    (heeded : ¬builder.Misreads defaults.safetyKey store operation)
    (name : String) :
    (((builder.withDefaults defaults).run Store.memory store
        operation).state.documents name).length =
      (store.documents name).length := by
  have alike := (alike_iff_not_misreads distinct usual).mpr heeded
  rw [MemoryStore.documents_congr alike.collections]
  by_cases lacks : builder.Lacks operation
  · rcases (check_cases builder operation).resolve_right
      fun complete => complete.1 lacks with ⟨-, fault, missing⟩
    rw [run_of_fault missing]
  · rcases exists_update_of_run builder store lacks updating with
      ⟨multiple, state, -⟩
    rw [state]
    apply MemoryStore.length_documents_of_unset
    rw [MemoryStore.isSet_upsert_updateWith (distinct.of_updating updating),
      usual]
    split
    · exact unasked
    · rfl

/-- An update that misreads the key stores one document if it succeeds. -/
theorem documents_of_misreads (distinct : operation.Unambiguous)
    (misreads : builder.Misreads defaults.safetyKey store operation)
    {result : operation.Result}
    (done : ((builder.withDefaults defaults).run Store.memory store
      operation).result = .ok result) :
    (∃ document, ((builder.withDefaults defaults).run Store.memory store
        operation).state.documents operation.place =
          store.documents operation.place ++ [document]) ∧
      ∀ name, name ≠ operation.place →
        ((builder.withDefaults defaults).run Store.memory store
          operation).state.documents name = store.documents name := by
  rcases misreads with ⟨complete, key, ⟨options, updating, silent⟩, unmet⟩
  rcases exists_update_of_run (builder.withDefaults defaults) store complete
    updating with ⟨multiple, state, answered⟩
  rcases answered result done with ⟨report, answered⟩
  rw [state]
  constructor
  · apply MemoryStore.documents_of_set ?_ unmet answered
    rw [MemoryStore.isSet_upsert_updateWith (distinct.of_updating updating)]
    simp only [silent]
    exact decide_eq_true key
  · intro name different
    simp only [MemoryStore.documents, MemoryStore.update]
    rw [MemoryStore.get?_write_ne _ different]
    rfl

/-- An update of a builder, of the first match or of all matches. -/
def runUpdate (builder : QueryBuilder) (store : MemoryStore) (multiple : Bool)
    (collection : String) (options : Document) :
    Run MemoryStore (Option Nat) :=
  match multiple with
  | false => builder.run Store.memory store (.update collection options)
  | true => builder.run Store.memory store (.updateAll collection options)

/-- Updates of two builders for which the store does the same are alike. -/
theorem runUpdate_withDefaults {first second : Document} (collection : String)
    (multiple : Bool)
    (same : store.update (Text.trim collection) builder.snapshot.filter
        builder.snapshot.update (defaults.updateWith multiple first) =
      store.update (Text.trim collection) builder.snapshot.filter
        builder.snapshot.update
        (builder.defaults.updateWith multiple second)) :
    (builder.withDefaults defaults).runUpdate store multiple collection first =
      runWithDefaults (builder.runUpdate store multiple collection second)
        defaults := by
  simp only [WriteDefaults.updateWith, snapshot] at same
  cases multiple with
  | false | true =>
    simp only [runUpdate, run, Operation.check, Operation.target,
      Operation.collection?, Operation.missing?, withDefaults]
    by_cases blank : Text.trim collection = ""
    · simp only [blank, if_true]
      rfl
    · by_cases idle : builder.envelope.updates.isEmpty
      · simp only [blank, idle, if_true, if_false]
        rfl
      · simp only [blank, idle, if_false, Bool.false_eq_true, Operation.call,
          Operation.request, Operation.envelope, Store.memory,
          MemoryStore.answer, same]
        generalize store.update (Text.trim collection) _ _ _ = reply
        rcases reply with ⟨failed | report, _, _⟩ <;> rfl

/-! ## Builders from settings -/

/-- What a safety key does to the operations of a builder, against those of a
builder with the usual key in the same state. -/
structure KeyLaws (key : String) (configured usual : QueryBuilder)
    (store : MemoryStore) : Prop where
  /-- An operation has the same result and leaves the same collections unless
  the key is misread. -/
  alike_iff {operation : Operation} (distinct : operation.Unambiguous) :
    Alike (configured.run Store.memory store operation)
        (usual.run Store.memory store operation) ↔
      ¬usual.Misreads key store operation
  /-- A key of another name than `upsert` makes no difference at all. -/
  inert (other : key ≠ "upsert") {operation : Operation}
    (distinct : operation.Unambiguous) :
    configured.run Store.memory store operation =
      runWithDefaults (usual.run Store.memory store operation)
        configured.defaults
  /-- Where the caller of an update is silent, the key `upsert` counts as the
  option of this name. -/
  counts (taken : key = "upsert") (collection : String) {options : Document}
    (distinct : options.Distinct) (silent : options.get? "upsert" = none) :
    let asking := options.insert "upsert" (.boolean true)
    configured.run Store.memory store (.update collection options) =
        runWithDefaults (usual.run Store.memory store
          (.update collection asking)) configured.defaults ∧
      configured.run Store.memory store (.updateAll collection options) =
        runWithDefaults (usual.run Store.memory store
          (.updateAll collection asking)) configured.defaults
  /-- An update that is not asked for a new document stores none unless the
  key is misread. -/
  kept {operation : Operation} {options : Document}
    (distinct : operation.Unambiguous)
    (updating : operation.updateOptions? = some options)
    (unasked : MemoryStore.isSet options "upsert" = false)
    (heeded : ¬usual.Misreads key store operation) (name : String) :
    ((configured.run Store.memory store operation).state.documents
      name).length = (store.documents name).length
  /-- One that misreads the key stores one document if it succeeds. -/
  added {operation : Operation} (distinct : operation.Unambiguous)
    (misreads : usual.Misreads key store operation)
    {result : operation.Result}
    (done : (configured.run Store.memory store operation).result =
      .ok result) :
    (∃ document, (configured.run Store.memory store
        operation).state.documents operation.place =
          store.documents operation.place ++ [document]) ∧
      ∀ name, name ≠ operation.place →
        (configured.run Store.memory store operation).state.documents name =
          store.documents name

theorem keyLaws_withDefaults (builder : QueryBuilder)
    (usual : builder.defaults = Operation.usualDefaults)
    (defaults : WriteDefaults) (store : MemoryStore) :
    KeyLaws defaults.safetyKey (builder.withDefaults defaults) builder
      store where
  alike_iff distinct := alike_iff_not_misreads distinct usual
  inert other _ distinct := run_of_key_ne distinct usual other
  counts taken collection _ distinct silent :=
    have same (multiple : Bool) := runUpdate_withDefaults collection multiple
      (MemoryStore.update_asking distinct silent taken builder.defaults
        multiple)
    ⟨same false, same true⟩
  kept distinct updating unasked heeded name :=
    length_documents_of_run distinct usual updating unasked heeded name
  added distinct misreads _ done :=
    documents_of_misreads distinct misreads done

theorem Misreads.congr {first second : String}
    (same : first = "upsert" ↔ second = "upsert")
    (misreads : builder.Misreads first store operation) :
    builder.Misreads second store operation :=
  ⟨misreads.complete, same.mp misreads.strays.key, misreads.strays.silent,
    misreads.strays.unmet⟩

/-- Only whether a key is `upsert` matters. -/
theorem KeyLaws.congr {first second : String}
    {configured usual : QueryBuilder}
    (same : first = "upsert" ↔ second = "upsert")
    (laws : KeyLaws first configured usual store) :
    KeyLaws second configured usual store := by
  have misreads {operation : Operation} :
      usual.Misreads first store operation ↔
        usual.Misreads second store operation :=
    ⟨Misreads.congr same, Misreads.congr same.symm⟩
  exact {
    alike_iff distinct :=
      (laws.alike_iff distinct).trans (not_congr misreads)
    inert other _ distinct := laws.inert (other ∘ same.mp) distinct
    counts taken := laws.counts (same.mpr taken)
    kept distinct updating unasked heeded :=
      laws.kept distinct updating unasked (heeded ∘ misreads.mp)
    added distinct found _ done :=
      laws.added distinct (misreads.mpr found) done }

theorem safetyKey_of_settings {settings : Settings}
    {configured : QueryBuilder} (made : ofSettings settings = .ok configured) :
    configured.defaults.safetyKey = "upsert" ↔
      Text.trim settings.querySafety = "upsert" := by
  rcases map_eq_ok_iff.mp made with ⟨valid, validated, rfl⟩
  have key : valid.querySafety =
      (Settings.nonblank? settings.querySafety).getD
        WriteDefaults.usualSafetyKey := by
    unfold Settings.validate at validated
    dsimp only at validated
    split at validated
    · cases validated
    · split at validated
      · cases validated
      · rcases Except.ok.inj validated with rfl
        rfl
  show valid.querySafety = "upsert" ↔ _
  rw [key, Settings.nonblank?]
  by_cases blank : Text.trim settings.querySafety = ""
  · simp [blank, WriteDefaults.usualSafetyKey]
  · simp [blank]

/-- Whatever is accumulated and stored, the safety key of settings makes no
difference to any operation, except that a key that comes to `upsert` is
misread by updates whose caller is silent about the option of this name. -/
theorem keyLaws_of_settings {settings : Settings}
    {configured : QueryBuilder} (made : ofSettings settings = .ok configured)
    (envelope : Envelope) (last : QueryLog) (store : MemoryStore) :
    KeyLaws (Text.trim settings.querySafety)
      { configured with envelope, last } { new with envelope, last } store :=
  (keyLaws_withDefaults { new with envelope, last } rfl configured.defaults
    store).congr (safetyKey_of_settings made)

/-- An update that finds nothing and is not asked for a new document stores one
for the key of the settings only. -/
theorem keyLaws_of_settings_upsert :
    let query := (new.follow (.condition (.equal "a" (.ofInt 1)))).follow
      (.change (.set "b" (.ofInt 2)))
    ∃ configured,
      ofSettings { dsn := "mongodb://h/db", querySafety := " upsert " } =
          .ok configured ∧
        ¬Alike
          ({ configured with envelope := query.envelope }.run Store.memory
            (.empty "db" default) (.update "c" []))
          (query.run Store.memory (.empty "db" default) (.update "c" [])) := by
  intro query
  have made : ofSettings
      { dsn := "mongodb://h/db", querySafety := " upsert " } =
        .ok (withSafetyKey "upsert") := rfl
  have laws := keyLaws_of_settings made query.envelope .none
    (.empty "db" default)
  have distinct : (Operation.update "c" []).Unambiguous := by
    rintro options given
    rcases Option.some.inj given with rfl
    exact List.nodup_nil
  have complete : ¬query.Lacks (.update "c" []) := by
    rintro (⟨collection, named, blank⟩ | empty)
    · rcases Option.some.inj named with rfl
      exact absurd blank (by decide)
    · exact List.cons_ne_nil _ _ empty
  exact ⟨_, made, fun alike => (laws.alike_iff distinct).mp alike
    ⟨complete, by decide, ⟨[], rfl, rfl⟩, rfl⟩⟩

end QueryBuilder

end DocQuery
