import DocQuery.Operation
import DocQuery.Settings
import DocQuery.Trace

/-!
# Query builders

A query builder accumulates a query, carries operations out on a store, and
remembers the last request that was answered.  After an operation that
succeeds the next query starts empty; after one that fails the query goes on
as it was.
-/

namespace DocQuery

/-- A query under construction with what operations on it need. -/
structure QueryBuilder where
  defaults : WriteDefaults
  envelope : Envelope
  /-- The last request that was answered. -/
  last : QueryLog
  deriving Inhabited

/-- What comes of an operation. -/
structure Run (State Result : Type) where
  result : Except Failure Result
  /-- The builder afterwards. -/
  builder : QueryBuilder
  /-- The state of the store afterwards. -/
  state : State
  /-- The trace lines that were written. -/
  lines : List String

namespace QueryBuilder

/-- A builder with a safety key. -/
def withSafetyKey (key : String) : QueryBuilder := ⟨⟨key⟩, .empty, .none⟩

/-- A builder that was not configured. -/
def new : QueryBuilder := withSafetyKey WriteDefaults.usualSafetyKey

/-- A builder with the safety key of settings, which must be valid. -/
def ofSettings (settings : Settings) : Except Fault QueryBuilder :=
  settings.validate.map fun valid => withSafetyKey valid.querySafety

/-- Follow a directive. -/
def follow (builder : QueryBuilder) (directive : Directive) : QueryBuilder :=
  { builder with envelope := builder.envelope.follow directive }

/-- The request that the query has come to. -/
def snapshot (builder : QueryBuilder) : Request := builder.envelope.compile

/-- The builder after a request was answered. -/
def record (builder : QueryBuilder) (log : QueryLog) : QueryBuilder :=
  { builder with envelope := .empty, last := log }

variable {State : Type}

/-- Carry an operation out.  One that misses something it needs never reaches
the store; any other makes exactly one call. -/
def run (builder : QueryBuilder) (store : Store State) (state : State)
    (operation : Operation) : Run State operation.Result :=
  match operation.check builder.envelope.updates with
  | .error fault => ⟨.error (.configuration fault), builder, state, []⟩
  | .ok target =>
    let request := operation.request builder.envelope
    let reply := store.answer state
      (operation.call builder.defaults target request)
    match reply.result.bind (operation.read builder.defaults target request) with
    | .error source =>
      ⟨.error (.store operation.action target source),
        { builder with envelope := operation.envelope builder.envelope },
        reply.state, reply.lines⟩
    | .ok result =>
      let log := request.toLog target operation.action
      ⟨.ok result, builder.record log, reply.state,
        reply.lines ++ [Trace.requestLine log]⟩

@[simp]
theorem snapshot_record (builder : QueryBuilder) (log : QueryLog) :
    (builder.record log).snapshot = Envelope.empty.compile := rfl

@[simp]
theorem last_record (builder : QueryBuilder) (log : QueryLog) :
    (builder.record log).last = log := rfl

@[simp]
theorem last_follow (builder : QueryBuilder) (directive : Directive) :
    (builder.follow directive).last = builder.last := rfl

theorem run_of_fault {builder : QueryBuilder} {store : Store State}
    {state : State} {operation : Operation} {fault : Fault}
    (missing : operation.check builder.envelope.updates = .error fault) :
    builder.run store state operation =
      ⟨.error (.configuration fault), builder, state, []⟩ := by
  simp [run, missing]

end QueryBuilder

end DocQuery
