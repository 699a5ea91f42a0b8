import DocQuery.Proofs.QueryBuilder.Exchange
import DocQuery.Proofs.Store.Idle

/-!
# Lines of a trace

Builders and stores in memory write to one sink.  A line tells by its tag who
wrote it, and no line has two tags, so taking out the lines of one producer
leaves those of the other as they are.

What an operation writes is told by its outcome: a document that was stored on
its own has a line of the store, and a request that was answered has a line of
the builder behind it.  Nothing else is written.
-/

namespace DocQuery

open Store (Call Reply)

namespace Trace

/-! ## Producers of lines -/

/-- Who writes to a sink. -/
inductive Producer where
  | builder
  | memory
  deriving DecidableEq

namespace Producer

/-- The tag of the lines of a producer. -/
def tag : Producer → String
  | .builder => builderTag
  | .memory => memoryTag

/-- The lines of a producer among some lines. -/
def among (producer : Producer) (lines : List String) : List String :=
  lines.filter (TraceSink.hasTag producer.tag)

variable {producer other : Producer}

theorem among_append (producer : Producer) (first second : List String) :
    producer.among (first ++ second) =
      producer.among first ++ producer.among second :=
  List.filter_append ..

/-- No line is that of two producers. -/
theorem eq_of_hasTag {line : String}
    (tagged : TraceSink.hasTag producer.tag line = true)
    (alsoTagged : TraceSink.hasTag other.tag line = true) :
    producer = other := by
  simp only [TraceSink.hasTag, List.isPrefixOf_iff_prefix] at tagged alsoTagged
  have comparable := List.prefix_or_prefix_of_prefix tagged alsoTagged
  cases producer with
  | builder =>
      cases other with
      | builder => rfl
      | memory => exact absurd comparable (by decide)
  | memory =>
      cases other with
      | builder => exact absurd comparable (by decide)
      | memory => rfl

/-- Taking out the lines of another producer leaves those of this one. -/
theorem among_drainTagged_of_ne (different : other ≠ producer)
    (sink : TraceSink) :
    producer.among (sink.drainTagged other.tag).2.snapshot =
      producer.among sink.snapshot := by
  rw [TraceSink.snapshot_drainTagged, among, among, List.filter_filter]
  refine List.filter_congr fun line _ => ?_
  cases tagged : TraceSink.hasTag producer.tag line with
  | false => rfl
  | true =>
      cases alsoTagged : TraceSink.hasTag other.tag line with
      | false => rfl
      | true => exact absurd (eq_of_hasTag alsoTagged tagged) different

/-- Taking out the lines of a producer leaves none of them. -/
theorem among_drainTagged_self (producer : Producer) (sink : TraceSink) :
    producer.among (sink.drainTagged producer.tag).2.snapshot = [] := by
  rw [TraceSink.snapshot_drainTagged, among, List.filter_filter]
  simp

end Producer

/-! ## Lines -/

theorem hasTag_append (tag rest : String) :
    TraceSink.hasTag tag (tag ++ rest) = true := by
  rw [TraceSink.hasTag, List.isPrefixOf_iff_prefix, String.toList_append]
  exact List.prefix_append ..

theorem hasTag_insertLine (collection : String) (id : Value) :
    TraceSink.hasTag memoryTag (insertLine collection id) = true := by
  simp only [insertLine, String.append_assoc]
  exact hasTag_append ..

theorem hasTag_requestLine (log : QueryLog) :
    TraceSink.hasTag builderTag (requestLine log) = true := by
  simp only [requestLine, String.append_assoc]
  exact hasTag_append ..

/-- How the line for a request begins: it names the action and the
collection. -/
def heading (action : Action) (collection : String) : String :=
  builderTag ++ " " ++ action.name ++ " on " ++ collection ++ ": "

theorem hasTag_heading (request : Request) (collection : String)
    (action : Action) :
    TraceSink.hasTag (heading action collection)
      (requestLine (request.toLog collection action)) = true := by
  have cut : ": filter=" = ": " ++ "filter=" := rfl
  have begun : ∃ rest, requestLine (request.toLog collection action) =
      heading action collection ++ rest := by
    simp only [requestLine, Request.toLog, heading, cut, String.append_assoc]
    exact ⟨_, rfl⟩
  rcases begun with ⟨rest, begun⟩
  rw [begun]
  exact hasTag_append ..

/-- Lines of one producer are all among its lines and none among those of the
other. -/
theorem Producer.among_of_forall {producer : Producer} {lines : List String}
    (tagged : ∀ line ∈ lines, TraceSink.hasTag producer.tag line = true)
    (other : Producer) :
    other.among lines = if other = producer then lines else [] := by
  split
  · next same =>
      rw [same]
      exact List.filter_eq_self.mpr tagged
  · next different =>
      refine List.filter_eq_nil_iff.mpr fun line member alsoTagged => ?_
      exact different (eq_of_hasTag alsoTagged (tagged line member))

end Trace

/-! ## What is written -/

/-- The document that a call stored on its own: the name of its collection and
its `_id`. -/
def Store.Call.stored? : (call : Call) → Except StoreError call.Answer →
    Option (String × Value)
  | .insert name _ _, .ok (some id) => some (name, id)
  | _, _ => none

/-- The document that an operation stored on its own. -/
def Operation.stored? : (operation : Operation) →
    Except Failure operation.Result → Option (String × Value)
  | .insert collection _ _, .ok (some id) => some (Text.trim collection, id)
  | _, _ => none

namespace Trace

/-- The lines for documents that were stored on their own. -/
def insertLines (stored : List (String × Value)) : List String :=
  stored.map fun (collection, id) => insertLine collection id

/-- The lines of a producer for documents that were stored and requests that
were answered. -/
def Producer.linesFor (producer : Producer) (stored : List (String × Value))
    (answered : List QueryLog) : List String :=
  match producer with
  | .builder => answered.map requestLine
  | .memory => insertLines stored

theorem Producer.among_linesFor (producer : Producer)
    (stored : List (String × Value)) (answered : List QueryLog) :
    producer.among (insertLines stored ++ answered.map requestLine) =
      producer.linesFor stored answered := by
  have inserted (other : Producer) :
      other.among (insertLines stored) =
        if other = .memory then insertLines stored else [] := by
    refine Producer.among_of_forall (fun line member => ?_) other
    rcases List.mem_map.mp member with ⟨⟨collection, id⟩, -, rfl⟩
    exact hasTag_insertLine collection id
  have requested (other : Producer) :
      other.among (answered.map requestLine) =
        if other = .builder then answered.map requestLine else [] := by
    refine Producer.among_of_forall (fun line member => ?_) other
    rcases List.mem_map.mp member with ⟨log, -, rfl⟩
    exact hasTag_requestLine log
  rw [Producer.among_append, inserted, requested]
  cases producer with
  | builder => rfl
  | memory => exact List.append_nil _

end Trace

namespace MemoryStore

variable {Answer : Type}

@[simp]
theorem lines_write (store : MemoryStore) (name : String)
    (change : Collection → Except StoreError (Collection × Answer)) :
    (store.write name change).lines = [] := by
  simp only [write]
  split <;> rfl

@[simp]
theorem lines_modify (store : MemoryStore) (name : String) (absent : Answer)
    (change : Collection → Except StoreError (Collection × Answer)) :
    (store.modify name absent change).lines = [] := by
  simp only [modify]
  split
  · rfl
  · split <;> rfl

/-- An insertion that succeeds answers with the `_id` that its line names. -/
theorem lines_insert (store : MemoryStore) (name : String)
    (document options : Document) :
    (store.insert name document).lines =
      Trace.insertLines ((Call.stored? (.insert name document options)
        (store.insert name document).result).toList) := by
  unfold insert write
  dsimp only
  cases ((MemoryStore.get? _ name).getD .empty).insert
      (Identified.ofDocument store.supply document).1.document <;> rfl

/-- An insertion that succeeds answers with an `_id`. -/
theorem exists_id_of_insert {store : MemoryStore} {name : String}
    {document : Document} {answer : Option Value}
    (inserted : (store.insert name document).result = .ok answer) :
    ∃ id, answer = some id := by
  rcases insert_eq_write store name document with ⟨result, -⟩
  rw [result, result_write] at inserted
  rcases map_eq_ok_iff.mp inserted with ⟨outcome, made, rfl⟩
  rcases map_eq_ok_iff.mp made with ⟨next, -, rfl⟩
  exact ⟨_, rfl⟩

/-- A store in memory writes a line for a document that it stored on its own,
and none for anything else. -/
theorem lines_answer (store : MemoryStore) (call : Call) :
    (store.answer call).lines =
      Trace.insertLines (call.stored? (store.answer call).result).toList := by
  cases call with
  | insert name document options =>
      exact lines_insert store name document options
  | update | remove | deleteIndexes =>
      simp [answer, MemoryStore.update, MemoryStore.remove,
        MemoryStore.deleteIndexes, Call.stored?, Trace.insertLines]
  | ensureIndex name keys options =>
      simp only [answer, MemoryStore.ensureIndex]
      split <;> simp [Call.stored?, Trace.insertLines]
  | deleteIndex name keys =>
      simp only [answer, MemoryStore.deleteIndex]
      split <;> simp [Call.stored?, Trace.insertLines]
  | runCommand command =>
      simp only [answer, MemoryStore.runCommand]
      split <;> simp [Call.stored?, Trace.insertLines]
  | _ => rfl

end MemoryStore

namespace Operation

variable {defaults : WriteDefaults} {request : Request}
  {operation : Operation}
  {answer : Except StoreError
    (operation.call defaults operation.place request).Answer}

/-- What a call stored on its own is what its operation stored. -/
theorem stored?_of_read {result : operation.Result}
    (read : answer.bind (operation.read defaults operation.place request) =
      .ok result) :
    (operation.call defaults operation.place request).stored? answer =
      operation.stored? (.ok result) := by
  cases operation with
  | insert collection document options =>
      cases answer with
      | error source => cases read
      | ok stored =>
          cases stored <;>
            · cases read
              rfl
  | _ => rfl

/-- A call whose answer is turned down has stored nothing on its own. -/
theorem stored?_of_read_error {source : StoreError}
    (read : answer.bind (operation.read defaults operation.place request) =
      .error source) :
    (operation.call defaults operation.place request).stored? answer =
      none := by
  cases operation with
  | insert collection document options =>
      cases answer with
      | error source => rfl
      | ok id => cases read
  | _ => rfl

end Operation

namespace QueryBuilder

/-- The record of the request that was answered, if one was. -/
def answered (builder : QueryBuilder) (operation : Operation) :
    Except Failure operation.Result → List QueryLog
  | .ok _ =>
    [(builder.requested operation).toLog operation.place operation.action]
  | .error _ => []

/-- The line for a request names its action and its collection. -/
theorem headed_of_answered {builder : QueryBuilder} {operation : Operation}
    {result : Except Failure operation.Result} {log : QueryLog}
    (member : log ∈ builder.answered operation result) :
    ∃ action, log.action = some action ∧
      TraceSink.hasTag (Trace.heading action log.collection)
        (Trace.requestLine log) = true := by
  cases result with
  | ok answer =>
      rcases List.mem_singleton.mp member with rfl
      exact ⟨operation.action, rfl, Trace.hasTag_heading ..⟩
  | error failure => cases member

/-- An operation writes a line for a document that it stored on its own, and
then one for its request if this was answered. -/
theorem lines_run (builder : QueryBuilder) (store : MemoryStore)
    (operation : Operation) :
    let result := (builder.run Store.memory store operation).result
    (builder.run Store.memory store operation).lines =
      Trace.insertLines (operation.stored? result).toList ++
        (builder.answered operation result).map Trace.requestLine := by
  rcases check_cases builder operation with
    ⟨-, fault, missing⟩ | ⟨-, complete⟩
  · rw [run_of_fault missing]
    cases operation <;> rfl
  · have written := store.lines_answer (operation.call builder.defaults
      operation.place (operation.request builder.envelope))
    simp only [run, complete, answered, ← request_eq_requested, Store.memory]
    split
    · next source refused =>
        rw [written, Operation.stored?_of_read_error refused]
        cases operation <;> rfl
    · next result answered =>
        rw [written, Operation.stored?_of_read answered]
        rfl

theorem lines_run_of_failure {builder : QueryBuilder} {store : MemoryStore}
    {operation : Operation} {failure : Failure}
    (failed : (builder.run Store.memory store operation).result =
      .error failure) :
    (builder.run Store.memory store operation).lines = [] := by
  rw [lines_run, failed]
  cases operation <;> rfl

theorem exists_id_of_run {builder : QueryBuilder} {store : MemoryStore}
    {collection : String} {document options : Document}
    {answer : Option Value}
    (inserted : (builder.run Store.memory store
      (.insert collection document options)).result = .ok answer) :
    ∃ id, answer = some id := by
  rcases check_cases builder (.insert collection document options) with
    ⟨-, fault, missing⟩ | ⟨-, complete⟩
  · rw [run_of_fault missing] at inserted
    cases inserted
  · simp only [run, complete] at inserted
    split at inserted
    · cases inserted
    · next result answered =>
        cases inserted
        rcases bind_eq_ok_iff.mp answered with ⟨id, stored, read⟩
        cases read
        exact MemoryStore.exists_id_of_insert stored

end QueryBuilder

end DocQuery
