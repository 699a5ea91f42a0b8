import DocQuery.Proofs.Trace
import Mathlib.Logic.Function.Basic

/-!
# Complete traces

During a session several builders work on stores in memory, and whoever looks
on takes lines out of the sink that all of them write to.

Nothing gets lost on the way.  What is taken out under a tag at any time,
together with what is left under it in the end, is what was written under it,
in order.  Every event keeps this balance, so it holds of all sequences of
events.
-/

namespace DocQuery

open Store (Call Reply)

/-- Builders on stores in memory, and the sink to which all of them write. -/
structure Session where
  builders : Nat → QueryBuilder
  /-- The store of each builder. -/
  storeOf : Nat → Nat
  stores : Nat → MemoryStore
  sink : TraceSink

namespace Session

/-- What happens during a session. -/
inductive Event where
  /-- A builder is told a directive. -/
  | told (builder : Nat) (directive : Directive)
  /-- A builder carries an operation out. -/
  | operated (builder : Nat) (operation : Operation)
  /-- A store is called without a builder. -/
  | called (store : Nat) (call : Call)
  /-- The lines of a producer are taken out of the sink. -/
  | drained (producer : Trace.Producer)

/-- What comes of an operation of a builder. -/
def outcome (session : Session) (builder : Nat) (operation : Operation) :
    Run MemoryStore operation.Result :=
  (session.builders builder).run Store.memory
    (session.stores (session.storeOf builder)) operation

/-- What comes of a call of a store. -/
def reply (session : Session) (store : Nat) (call : Call) :
    Reply MemoryStore call.Answer :=
  (session.stores store).answer call

/-- The session after an event. -/
def step (session : Session) : Event → Session
  | .told builder directive =>
    { session with
      builders := Function.update session.builders builder
        ((session.builders builder).follow directive) }
  | .operated builder operation =>
    let outcome := session.outcome builder operation
    { session with
      builders := Function.update session.builders builder outcome.builder
      stores := Function.update session.stores (session.storeOf builder)
        outcome.state
      sink := session.sink.write outcome.lines }
  | .called store call =>
    let reply := session.reply store call
    { session with
      stores := Function.update session.stores store reply.state
      sink := session.sink.write reply.lines }
  | .drained producer =>
    { session with sink := (session.sink.drainTagged producer.tag).2 }

/-- The session after events. -/
def after (session : Session) (events : List Event) : Session :=
  events.foldl step session

/-- What events give rise to one after the other. -/
def collect {Item : Type} (observe : Session → Event → List Item)
    (session : Session) : List Event → List Item
  | [] => []
  | event :: rest =>
    observe session event ++ collect observe (session.step event) rest

/-- The lines of a producer that an event takes out of the sink. -/
def taken (producer : Trace.Producer) (session : Session) :
    Event → List String
  | .drained other =>
    if other = producer then (session.sink.drainTagged producer.tag).1 else []
  | _ => []

/-- The request that was answered during an event. -/
def answered (session : Session) : Event → List QueryLog
  | .operated builder operation =>
    (session.builders builder).answered operation
      (session.outcome builder operation).result
  | _ => []

/-- The document that an event stores on its own. -/
def stored (session : Session) : Event → List (String × Value)
  | .operated builder operation =>
    (operation.stored? (session.outcome builder operation).result).toList
  | .called store call =>
    (call.stored? (session.reply store call).result).toList
  | _ => []

/-- The lines that a producer owes for an event. -/
def owed (producer : Trace.Producer) (session : Session) (event : Event) :
    List String :=
  producer.linesFor (session.stored event) (session.answered event)

variable {session : Session} {producer : Trace.Producer}

theorem lines_outcome (builder : Nat) (operation : Operation) :
    producer.among (session.outcome builder operation).lines =
      session.owed producer (.operated builder operation) := by
  rw [owed, ← Trace.Producer.among_linesFor, outcome, QueryBuilder.lines_run]
  rfl

theorem lines_reply (store : Nat) (call : Call) :
    producer.among (session.reply store call).lines =
      session.owed producer (.called store call) := by
  rw [owed, ← Trace.Producer.among_linesFor, reply,
    MemoryStore.lines_answer]
  simp [stored, answered, reply]

/-! ## The balance of a session -/

theorem snapshot_write {sink : TraceSink} (on : sink.lines.isSome = true)
    (lines : List String) :
    (sink.write lines).snapshot = sink.snapshot ++ lines := by
  rcases sink with ⟨_ | before⟩
  · cases on
  · rfl

/-- No event switches the sink off. -/
theorem isSome_step (on : session.sink.lines.isSome = true) (event : Event) :
    (session.step event).sink.lines.isSome = true := by
  cases event <;>
    simp [step, TraceSink.write, TraceSink.drainTagged, on]

/-- What an event takes out of a producer's lines, and what it leaves of them,
are those that there were and those that it owes. -/
theorem taken_append_among_step (on : session.sink.lines.isSome = true)
    (producer : Trace.Producer) (event : Event) :
    session.taken producer event ++
        producer.among (session.step event).sink.snapshot =
      producer.among session.sink.snapshot ++
        session.owed producer event := by
  cases event with
  | told builder directive =>
      cases producer <;> exact (List.append_nil _).symm
  | operated builder operation =>
      simp only [taken, step, snapshot_write on,
        Trace.Producer.among_append, lines_outcome, List.nil_append]
  | called store call =>
      simp only [taken, step, snapshot_write on,
        Trace.Producer.among_append, lines_reply, List.nil_append]
  | drained other =>
      have nothing : session.owed producer (.drained other) = [] := by
        cases producer <;> rfl
      rw [nothing, List.append_nil, taken, step]
      split
      · next same =>
          rw [same, Trace.Producer.among_drainTagged_self, List.append_nil,
            TraceSink.drainTagged_fst]
          rfl
      · next different =>
          exact Trace.Producer.among_drainTagged_of_ne different _

/-- What all events together take out of a producer's lines, and what they
leave of them, are those that there were and those that are owed. -/
theorem collect_taken_append_among (on : session.sink.lines.isSome = true)
    (producer : Trace.Producer) (events : List Event) :
    session.collect (taken producer) events ++
        producer.among (session.after events).sink.snapshot =
      producer.among session.sink.snapshot ++
        session.collect (owed producer) events := by
  induction events generalizing session with
  | nil => simp [collect, after]
  | cons event rest ih =>
      have later := ih (isSome_step on event)
      calc session.collect (taken producer) (event :: rest) ++
            producer.among (session.after (event :: rest)).sink.snapshot
          = session.taken producer event ++
              ((session.step event).collect (taken producer) rest ++
                producer.among
                  ((session.step event).after rest).sink.snapshot) :=
            List.append_assoc ..
        _ = session.taken producer event ++
              producer.among (session.step event).sink.snapshot ++
                (session.step event).collect (owed producer) rest := by
            rw [later, List.append_assoc]
        _ = producer.among session.sink.snapshot ++
              session.collect (owed producer) (event :: rest) := by
            rw [taken_append_among_step on, List.append_assoc]
            rfl

/-! ## Runs of events -/

theorem after_append (session : Session) (first second : List Event) :
    session.after (first ++ second) = (session.after first).after second :=
  List.foldl_append

theorem isSome_after (on : session.sink.lines.isSome = true)
    (events : List Event) :
    (session.after events).sink.lines.isSome = true := by
  induction events generalizing session with
  | nil => exact on
  | cons event rest ih => exact ih (isSome_step on event)

variable {Item : Type} {observe : Session → Event → List Item}

theorem exists_of_mem_collect {events : List Event} {item : Item}
    (member : item ∈ session.collect observe events) :
    ∃ reached, ∃ event ∈ events, item ∈ observe reached event := by
  induction events generalizing session with
  | nil => cases member
  | cons event rest ih =>
      rcases List.mem_append.mp member with now | later
      · exact ⟨session, event, List.mem_cons_self .., now⟩
      · rcases ih later with ⟨reached, found, among, seen⟩
        exact ⟨reached, found, List.mem_cons_of_mem _ among, seen⟩

theorem collect_owed (session : Session) (producer : Trace.Producer)
    (events : List Event) :
    session.collect (owed producer) events =
      producer.linesFor (session.collect stored events)
        (session.collect answered events) := by
  induction events generalizing session with
  | nil => cases producer <;> rfl
  | cons event rest ih =>
      simp only [collect, ih, owed]
      cases producer with
      | builder => exact List.map_append.symm
      | memory => exact List.map_append.symm

/-- Only taking out the lines of a producer takes any of them. -/
theorem collect_taken_eq_nil {events : List Event}
    (untouched : .drained producer ∉ events) :
    session.collect (taken producer) events = [] := by
  refine List.eq_nil_iff_forall_not_mem.mpr fun line member => ?_
  rcases exists_of_mem_collect member with ⟨reached, event, among, seen⟩
  cases event with
  | drained other =>
      have different : other ≠ producer := by
        rintro rfl
        exact untouched among
      simp [taken, different] at seen
  | _ => simp [taken] at seen

/-- The lines of a session that starts with an empty sink, at some time of
it. -/
structure Traced (session : Session) (events : List Event) : Prop where
  /-- One line was written for every request that was answered, in order; it was
  taken out or is still there. -/
  requests : session.collect (taken .builder) events ++
      Trace.Producer.builder.among (session.after events).sink.snapshot =
    (session.collect answered events).map Trace.requestLine
  /-- A line names the action and the collection of its request. -/
  named : ∀ log ∈ session.collect answered events, ∃ action,
    log.action = some action ∧
      TraceSink.hasTag (Trace.heading action log.collection)
        (Trace.requestLine log) = true
  /-- One line was written for every document that was stored on its own, in
  order; it was taken out or is still there. -/
  insertions : session.collect (taken .memory) events ++
      Trace.Producer.memory.among (session.after events).sink.snapshot =
    Trace.insertLines (session.collect stored events)
  /-- An insertion that succeeds stores one document on its own. -/
  inserted {builder : Nat} {collection : String} {document options : Document}
      {answer : Option Value} :
    ((session.after events).outcome builder
        (.insert collection document options)).result = .ok answer →
      ∃ id, answer = some id ∧
        (session.after events).stored
            (.operated builder (.insert collection document options)) =
          [(Text.trim collection, id)]
  /-- An operation that fails writes no line. -/
  failed {builder : Nat} {operation : Operation} {failure : Failure} :
    ((session.after events).outcome builder operation).result =
        .error failure →
      ((session.after events).outcome builder operation).lines = []
  /-- Taking out the lines of one producer leaves those of the other. -/
  apart {producer other : Trace.Producer} : other ≠ producer →
    producer.among
        ((session.after events).step (.drained other)).sink.snapshot =
      producer.among (session.after events).sink.snapshot
  /-- Lines stay until they are taken out under their own tag. -/
  kept {producer : Trace.Producer} {later : List Event} :
    .drained producer ∉ later →
      producer.among (session.after events).sink.snapshot <+:
        producer.among (session.after (events ++ later)).sink.snapshot

/-- A session with an empty sink that is on. -/
def start (builders : Nat → QueryBuilder) (storeOf : Nat → Nat)
    (stores : Nat → MemoryStore) : Session :=
  ⟨builders, storeOf, stores, .on⟩

/-- Whatever happens in a session, no line is lost, repeated or put among
those of the other producer. -/
theorem traced_of_start (builders : Nat → QueryBuilder) (storeOf : Nat → Nat)
    (stores : Nat → MemoryStore) (events : List Event) :
    Traced (start builders storeOf stores) events where
  requests := by
    rw [collect_taken_append_among rfl, collect_owed]
    rfl
  named log member := by
    rcases exists_of_mem_collect member with ⟨reached, event, -, seen⟩
    cases event with
    | operated builder operation =>
        exact QueryBuilder.headed_of_answered seen
    | _ => cases seen
  insertions := by
    rw [collect_taken_append_among rfl, collect_owed]
    rfl
  inserted {builder collection document options answer} inserted := by
    rcases QueryBuilder.exists_id_of_run inserted with ⟨id, rfl⟩
    refine ⟨id, rfl, ?_⟩
    rw [stored, inserted]
    rfl
  failed failed := QueryBuilder.lines_run_of_failure failed
  apart different := Trace.Producer.among_drainTagged_of_ne different _
  kept {producer later} untouched := by
    have on : ((start builders storeOf stores).after
        events).sink.lines.isSome = true := isSome_after rfl events
    have balance := collect_taken_append_among on producer later
    rw [collect_taken_eq_nil untouched, List.nil_append] at balance
    rw [after_append, balance]
    exact List.prefix_append ..

/-- The count fails for want of a collection, and the line of the store stays
behind when those of the builder are taken out. -/
example :
    let session := start (fun _ => .new) id fun _ => .empty "sample" default
    let events : List Event :=
      [.operated 0 (.insert " c " [("_id", .ofInt 1)] []),
        .operated 0 (.count " "), .drained .builder]
    session.collect (taken .builder) events =
        ["[qb] insert on c: filter=\x7b\x7d update=\x7b\x7d sort=\x7b\x7d " ++
          "limit=999999 offset=0"] ∧
      (session.after events).sink.snapshot = ["[memory] insert into c: 1"] := by
  decide +kernel

end Session

end DocQuery
