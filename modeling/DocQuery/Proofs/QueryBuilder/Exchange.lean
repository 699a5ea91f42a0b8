import DocQuery.QueryBuilder
import Mathlib.Data.List.Nodup

/-!
# What an operation asks of a store

An operation that misses something it needs is refused before the store hears
of it.  Any other operation makes one call, to the method of the store that it
stands for, with what the query has come to and with the options of the caller
over the usual ones.  If the store answers, the request is recorded as it was
made and the next query starts empty.  All of this holds of every store.

What reaches the store is read off a store that notes its calls, and such a
store is shown to make no difference otherwise.
-/

namespace DocQuery

open Store (Call)

/-! ## Options over defaults -/

namespace Document

/-- Options with those of a caller over the usual ones.  Every name has the
value that the caller gives it, or else the usual one, and the names that are
not usual come last. -/
structure Overlaid (usual options overlaid : Document) : Prop where
  values (name : String) :
    overlaid.get? name = (options.get? name).or (usual.get? name)
  names : overlaid.keys =
    usual.keys ++ options.keys.filter fun name => name ∉ usual.keys

theorem overlaid_nil (usual : Document) : Overlaid usual [] usual :=
  ⟨fun _ => rfl, (List.append_nil _).symm⟩

theorem Overlaid.cons {usual options overlaid : Document} {name : String}
    {value : Value} (absent : name ∉ options.keys)
    (others : Overlaid (usual.insert name value) options overlaid) :
    Overlaid usual ((name, value) :: options) overlaid := by
  have first : keys ((name, value) :: options) = name :: options.keys := rfl
  constructor
  · intro other
    rw [others.values, get?_cons]
    by_cases same : name = other
    · subst same
      simp [get?_eq_none_iff.mpr absent]
    · simp [same, get?_insert_ne usual same]
  · rw [others.names, keys_insert, first]
    by_cases known : name ∈ usual.keys
    · simp [known]
    · -- No later option has this name, so the same ones are new to the list.
      have unaffected :
          options.keys.filter (fun other => other ∉ usual.keys ++ [name]) =
            options.keys.filter fun other => other ∉ usual.keys := by
        refine List.filter_congr fun other member => ?_
        have different : other ≠ name := fun same => absent (same ▸ member)
        simp [different]
      rw [if_neg known, unaffected]
      simp [known]

/-- Inserting distinct options one after the other lays them over the usual
ones. -/
theorem overlaid_merge (usual : Document) {options : Document}
    (distinct : options.Distinct) :
    Overlaid usual options (usual.merge options) := by
  induction options generalizing usual with
  | nil => exact overlaid_nil usual
  | cons entry rest ih =>
      rcases entry with ⟨name, value⟩
      rcases List.nodup_cons.mp distinct with ⟨absent, restDistinct⟩
      exact (ih (usual.insert name value) restDistinct).cons absent

end Document

/-! ## Operations and the calls they stand for -/

namespace Operation

/-- The options that the caller gives to a write. -/
def options? : Operation → Option Document
  | .insert _ _ options | .batchInsert _ _ options | .update _ options
  | .updateAll _ options => some options
  | _ => none

/-- The collection under which an operation is recorded. -/
def place (operation : Operation) : String :=
  match operation.collection? with
  | some collection => Text.trim collection
  | none => "$cmd"

/-- An operation names its collection by a blank text. -/
def Nameless (operation : Operation) : Prop :=
  ∃ collection ∈ operation.collection?, Text.trim collection = ""

theorem target_of_nameless {operation : Operation}
    (nameless : operation.Nameless) :
    ∃ fault, operation.target = .error fault := by
  rcases nameless with ⟨collection, named, blank⟩
  rw [Option.mem_def] at named
  simp [target, named, blank]

theorem target_of_not_nameless {operation : Operation}
    (named : ¬operation.Nameless) :
    operation.target = .ok operation.place := by
  rcases found : operation.collection? with - | collection
  · simp only [target, place, found, commandCollection]
  · have visible : Text.trim collection ≠ "" :=
      fun blank => named ⟨collection, found, blank⟩
    simp only [target, place, found, if_neg visible]

/-- The call that each operation stands for, given the usual options and the
request that was made.  The collection loses its blank margin. -/
inductive Sends (defaults : WriteDefaults) (request : Request) :
    Operation → Call → Prop where
  | get (collection : String) :
      Sends defaults request (.get collection)
        (.find (Text.trim collection) request.filter request.projection)
  | getWhere (collection : String) (fields : Document) :
      Sends defaults request (.getWhere collection fields)
        (.find (Text.trim collection) request.filter request.projection)
  | getCursor (collection : String) :
      Sends defaults request (.getCursor collection)
        (.find (Text.trim collection) request.filter request.projection)
  | count (collection : String) :
      Sends defaults request (.count collection)
        (.count (Text.trim collection) request.filter request.limit.toNat
          request.offset.toNat)
  | insert (collection : String) (document : Document)
      {options overlaid : Document}
      (overlay : defaults.insertion.Overlaid options overlaid) :
      Sends defaults request (.insert collection document options)
        (.insert (Text.trim collection) document overlaid)
  | batchInsert (collection : String) (documents : List Document)
      {options overlaid : Document}
      (overlay : defaults.insertion.Overlaid options overlaid) :
      Sends defaults request (.batchInsert collection documents options)
        (.batchInsert (Text.trim collection) documents overlaid)
  | update (collection : String) {options overlaid : Document}
      (overlay : (defaults.update false).Overlaid options overlaid) :
      Sends defaults request (.update collection options)
        (.update (Text.trim collection) request.filter request.update overlaid)
  | updateAll (collection : String) {options overlaid : Document}
      (overlay : (defaults.update true).Overlaid options overlaid) :
      Sends defaults request (.updateAll collection options)
        (.update (Text.trim collection) request.filter request.update overlaid)
  | delete (collection : String) :
      Sends defaults request (.delete collection)
        (.remove (Text.trim collection) request.filter (defaults.removal true))
  | deleteAll (collection : String) :
      Sends defaults request (.deleteAll collection)
        (.remove (Text.trim collection) request.filter (defaults.removal false))
  | addIndex (collection : String) (fields options : Document) :
      Sends defaults request (.addIndex collection fields options)
        (.ensureIndex (Text.trim collection) (indexKey fields) options)
  | removeIndex (collection : String) (fields : Document) :
      Sends defaults request (.removeIndex collection fields)
        (.deleteIndex (Text.trim collection) (indexKey fields))
  | removeAllIndexes (collection : String) :
      Sends defaults request (.removeAllIndexes collection)
        (.deleteIndexes (Text.trim collection))
  | listIndexes (collection : String) :
      Sends defaults request (.listIndexes collection)
        (.indexInfo (Text.trim collection))
  | dropCollection (collection : String) :
      Sends defaults request (.dropCollection collection)
        (.dropCollection (Text.trim collection))
  | command (instruction : Document) :
      Sends defaults request (.command instruction) (.runCommand instruction)

theorem sends_call (defaults : WriteDefaults) (request : Request)
    {operation : Operation}
    (distinct : ∀ options ∈ operation.options?, options.Distinct) :
    Sends defaults request operation
      (operation.call defaults operation.place request) := by
  cases operation with
  | insert collection document options =>
      exact .insert collection document
        (Document.overlaid_merge _ (distinct options rfl))
  | batchInsert collection documents options =>
      exact .batchInsert collection documents
        (Document.overlaid_merge _ (distinct options rfl))
  | update collection options =>
      exact .update collection
        (Document.overlaid_merge _ (distinct options rfl))
  | updateAll collection options =>
      exact .updateAll collection
        (Document.overlaid_merge _ (distinct options rfl))
  | _ => constructor

end Operation

namespace QueryBuilder

variable {State : Type} {builder : QueryBuilder} {operation : Operation}

/-! ## What an operation cannot do without -/

/-- An operation has nothing to write, or no field to index by. -/
def LacksPayload (builder : QueryBuilder) : Operation → Prop
  | .insert _ document _ => document = []
  | .batchInsert _ documents _ => documents = [] ∨ [] ∈ documents
  | .update _ _ | .updateAll _ _ => builder.snapshot.update = []
  | .addIndex _ fields _ | .removeIndex _ fields => fields = []
  | _ => False

/-- An operation misses the name of its collection or its payload. -/
def Lacks (builder : QueryBuilder) (operation : Operation) : Prop :=
  operation.Nameless ∨ builder.LacksPayload operation

theorem missing_iff_lacksPayload :
    (∃ fault, operation.missing? builder.envelope.updates = some fault) ↔
      builder.LacksPayload operation := by
  cases operation with
  | batchInsert collection documents options =>
      simp [Operation.missing?, LacksPayload]
  | update collection options =>
      simp [Operation.missing?, LacksPayload, snapshot, Envelope.compile,
        Updates.compile, Updates.isEmpty]
  | updateAll collection options =>
      simp [Operation.missing?, LacksPayload, snapshot, Envelope.compile,
        Updates.compile, Updates.isEmpty]
  | _ => simp [Operation.missing?, LacksPayload]

/-- What lacks something is found out, and what lacks nothing goes to its
collection. -/
theorem check_cases (builder : QueryBuilder) (operation : Operation) :
    (builder.Lacks operation ∧
        ∃ fault, operation.check builder.envelope.updates = .error fault) ∨
      (¬builder.Lacks operation ∧
        operation.check builder.envelope.updates = .ok operation.place) := by
  by_cases nameless : operation.Nameless
  · rcases Operation.target_of_nameless nameless with ⟨fault, refused⟩
    exact Or.inl ⟨Or.inl nameless, fault, by
      simp only [Operation.check, refused]⟩
  · have named := Operation.target_of_not_nameless nameless
    rcases missed : operation.missing? builder.envelope.updates with
      - | fault
    · have complete : ¬builder.LacksPayload operation := by
        rw [← missing_iff_lacksPayload, missed]
        simp
      refine Or.inr ⟨not_or.mpr ⟨nameless, complete⟩, ?_⟩
      simp only [Operation.check, named, missed]
    · have lacks := missing_iff_lacksPayload.mp ⟨fault, missed⟩
      refine Or.inl ⟨Or.inr lacks, fault, ?_⟩
      simp only [Operation.check, named, missed]

/-! ## The request -/

/-- The request that an operation makes: what the query has come to, with the
conditions that a fetch adds, and with the identifier that the `_id` of a
deletion of all matches may stand for. -/
def requested (builder : QueryBuilder) : Operation → Request
  | .getWhere _ fields =>
    (builder.follow (.condition (.allEqual fields))).snapshot
  | .deleteAll _ =>
    { builder.snapshot with
      filter := Operation.withIdentifier builder.snapshot.filter }
  | _ => builder.snapshot

theorem request_eq_requested (builder : QueryBuilder)
    (operation : Operation) :
    operation.request builder.envelope = builder.requested operation := by
  cases operation <;> rfl

/-! ## One operation -/

variable {store : Store State} {state : State}

/-- A store that notes its calls makes no other difference. -/
theorem run_recording (builder : QueryBuilder) (store : Store State)
    (state : State) (calls : List Call) (operation : Operation) :
    (builder.run store.recording (state, calls) operation).result =
        (builder.run store state operation).result ∧
      (builder.run store.recording (state, calls) operation).builder =
        (builder.run store state operation).builder := by
  rcases check_cases builder operation with
    ⟨-, fault, missing⟩ | ⟨-, complete⟩
  · simp only [run_of_fault missing, and_self]
  · -- Both runs read the same answer of the store underneath.
    simp only [run, complete, Store.recording]
    split <;> exact ⟨rfl, rfl⟩

theorem state_of_run
    (complete : operation.check builder.envelope.updates =
      .ok operation.place) :
    (builder.run store state operation).state =
      (store.answer state (operation.call builder.defaults operation.place
        (builder.requested operation))).state := by
  rw [← request_eq_requested]
  simp only [run, complete]
  split <;> rfl

theorem result_of_run
    (complete : operation.check builder.envelope.updates =
      .ok operation.place) (fault : Fault) :
    (builder.run store state operation).result ≠
      .error (.configuration fault) := by
  simp only [run, complete]
  split <;> simp

/-- A request that was answered is recorded, and the next query is empty. -/
theorem builder_of_run {result : operation.Result}
    (answered : (builder.run store state operation).result = .ok result) :
    (builder.run store state operation).builder =
      { defaults := builder.defaults
        envelope := .empty
        last := (builder.requested operation).toLog operation.place
          operation.action } := by
  rcases check_cases builder operation with
    ⟨-, fault, missing⟩ | ⟨-, complete⟩
  · rw [run_of_fault missing] at answered
    simp at answered
  · rw [← request_eq_requested]
    simp only [run, complete] at answered ⊢
    split at answered
    · simp at answered
    · rfl

/-- What passes between a builder and a store when an operation is carried
out. -/
structure Exchange (builder : QueryBuilder) (store : Store State)
    (state : State) (operation : Operation) : Prop where
  /-- The caller is at fault exactly when the operation lacks something. -/
  refused : (∃ fault, (builder.run store state operation).result =
      .error (.configuration fault)) ↔ builder.Lacks operation
  /-- The store hears nothing of such an operation. -/
  unasked : builder.Lacks operation → ∀ calls,
    (builder.run store.recording (state, calls) operation).state =
      (state, calls)
  /-- The store hears of any other operation by the one call that it stands
  for. -/
  asked : ¬builder.Lacks operation → ∃ call,
    operation.Sends builder.defaults (builder.requested operation) call ∧
      ∀ calls, (builder.run store.recording (state, calls) operation).state =
        ((store.answer state call).state, calls ++ [call])
  /-- It makes no difference that the calls are noted. -/
  unnoticed (calls : List Call) :
    (builder.run store.recording (state, calls) operation).result =
        (builder.run store state operation).result ∧
      (builder.run store.recording (state, calls) operation).builder =
        (builder.run store state operation).builder
  /-- After an answer the request is recorded and nothing is accumulated. -/
  recorded (result : operation.Result) :
    (builder.run store state operation).result = .ok result →
      (builder.run store state operation).builder =
        { defaults := builder.defaults
          envelope := .empty
          last := (builder.requested operation).toLog operation.place
            operation.action }

/-- Whatever the store and the query, an operation asks the store for what it
stands for, or for nothing when it lacks something. -/
theorem exchange_of_run (builder : QueryBuilder) (store : Store State)
    (state : State) (operation : Operation)
    (distinct : ∀ options ∈ operation.options?, options.Distinct) :
    Exchange builder store state operation where
  refused := by
    rcases check_cases builder operation with
      ⟨lacks, fault, missing⟩ | ⟨lacksNothing, complete⟩
    · rw [run_of_fault missing]
      exact ⟨fun _ => lacks, fun _ => ⟨fault, rfl⟩⟩
    · constructor
      · rintro ⟨fault, refused⟩
        exact absurd refused (result_of_run complete fault)
      · exact fun lacks => absurd lacks lacksNothing
  unasked lacks calls := by
    rcases check_cases builder operation with
      ⟨-, fault, missing⟩ | ⟨lacksNothing, -⟩
    · rw [run_of_fault missing]
    · exact absurd lacks lacksNothing
  asked lacksNothing := by
    rcases check_cases builder operation with ⟨lacks, -⟩ | ⟨-, complete⟩
    · exact absurd lacks lacksNothing
    · exact ⟨_, Operation.sends_call _ _ distinct,
        fun calls => state_of_run complete⟩
  unnoticed calls := run_recording builder store state calls operation
  recorded _ := builder_of_run

/-- A document goes to `people` by one call, in which the caller takes the usual
option `safe` back and adds the option `w`. -/
theorem exchange_of_run_declining :
    Exchange new (Store.declining "busy") ()
        (.insert " people " [("a", .ofInt 1)]
          [("w", .ofInt 1), ("safe", .boolean false)]) ∧
      (new.run (Store.declining "busy").recording ((), [])
        (.insert " people " [("a", .ofInt 1)]
          [("w", .ofInt 1), ("safe", .boolean false)])).state =
        ((), [.insert "people" [("a", .ofInt 1)]
          [("safe", .boolean false), ("w", .ofInt 1)]]) := by
  refine ⟨exchange_of_run _ _ _ _ fun options given => ?_, rfl⟩
  rcases Option.some.inj given with rfl
  unfold Document.Distinct
  decide

end QueryBuilder

end DocQuery
