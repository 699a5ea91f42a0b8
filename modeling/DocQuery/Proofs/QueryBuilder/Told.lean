import DocQuery.Proofs.Clause.Page
import DocQuery.Proofs.QueryBuilder.Exchange
import DocQuery.Proofs.QueryBuilder.Failure
import DocQuery.Store.Memory

/-!
# What a builder was told

A query consists of what its builder was told since the last operation that
was answered.  An operation that failed adds nothing, except that a fetch with
conditions of its own leaves them when the store fails.

So the requests of a builder, through however many operations it has gone,
bound and arrange their documents as the directives since the last answer say.
The limit of such a request is at least one, and a store never sees the limit
zero, which stands for none.
-/

namespace DocQuery

namespace Operation

/-- The directives that an operation adds to the query it is about. -/
def added : Operation → List Directive
  | .getWhere _ fields => [.condition (.allEqual fields)]
  | _ => []

theorem envelope_eq_followAll (query : Envelope) (operation : Operation) :
    operation.envelope query = query.followAll operation.added := by
  cases operation <;> rfl

/-- The directives that stay after a failure of an operation. -/
def retained (operation : Operation) : Failure → List Directive
  | .store .. => operation.added
  | _ => []

end Operation

theorem Envelope.followAll_append (envelope : Envelope)
    (first rest : List Directive) :
    envelope.followAll (first ++ rest) =
      (envelope.followAll first).followAll rest :=
  List.foldl_append

/-- Conditions do not concern the page. -/
theorem Envelope.Arranges.of_added {directives : List Directive}
    {request : Request} {operation : Operation}
    (arranges : Envelope.Arranges (directives ++ operation.added) request) :
    Envelope.Arranges directives request := by
  cases operation with
  | getWhere collection fields =>
      rcases arranges with ⟨limit, offset, limitPos, offsetNonneg, sort, shown⟩
      simp only [Operation.added, List.flatMap_append, List.flatMap_cons,
        List.flatMap_nil, Directive.limits, Directive.offsets,
        Directive.sortings, Directive.revealed, Directive.concealed,
        List.append_nil] at limit offset sort shown
      exact ⟨limit, offset, limitPos, offsetNonneg, sort, shown⟩
  | _ => simpa [Operation.added] using arranges

namespace QueryBuilder

/-- A builder with the directives that it was told since its last operation
that was answered, on whatever stores. -/
inductive Told : QueryBuilder → List Directive → Prop where
  | fresh (key : String) : Told (withSafetyKey key) []
  | followed {builder : QueryBuilder} {directives : List Directive}
      (told : Told builder directives) (directive : Directive) :
      Told (builder.follow directive) (directives ++ [directive])
  /-- After an answer nothing counts that was said before. -/
  | answered {builder : QueryBuilder} {directives : List Directive}
      {State : Type} {store : Store State} {state : State}
      {operation : Operation} {result : operation.Result}
      (told : Told builder directives)
      (ok : (builder.run store state operation).result = .ok result) :
      Told (builder.run store state operation).builder []
  /-- After a failure all of it goes on to count. -/
  | failed {builder : QueryBuilder} {directives : List Directive}
      {State : Type} {store : Store State} {state : State}
      {operation : Operation} {failure : Failure}
      (told : Told builder directives)
      (error : (builder.run store state operation).result = .error failure) :
      Told (builder.run store state operation).builder
        (directives ++ operation.retained failure)

variable {builder : QueryBuilder} {directives : List Directive}

/-- The query is made of what the builder was told. -/
theorem envelope_of_told (told : builder.Told directives) :
    builder.envelope = Envelope.empty.followAll directives := by
  induction told with
  | fresh key => rfl
  | followed told directive ih =>
      rw [Envelope.followAll_append, ← ih]
      rfl
  | answered told ok ih =>
      rw [builder_of_run ok]
      rfl
  | failed told error ih =>
      rw [Envelope.followAll_append, ← ih]
      rcases builder_of_failure error with
        ⟨⟨fault, rfl⟩, unchanged⟩ | ⟨target, source, -, rfl, changed⟩
      · rw [unchanged]
        rfl
      · rw [changed]
        exact Operation.envelope_eq_followAll ..

/-- Every request of an operation arranges its documents as the builder was
told. -/
theorem arranges_request (told : builder.Told directives)
    (operation : Operation) :
    Envelope.Arranges directives (operation.request builder.envelope) := by
  have compiled : Envelope.Arranges directives
      (operation.envelope builder.envelope).compile := by
    rw [Operation.envelope_eq_followAll, envelope_of_told told,
      ← Envelope.followAll_append]
    exact (Envelope.arranges_compile _).of_added
  cases operation with
  | deleteAll collection =>
      -- Another filter is all that the request has of its own.
      exact { compiled with }
  | _ => exact compiled

/-- What the requests of a builder come to that was told some directives. -/
structure ArrangesAll (builder : QueryBuilder) (directives : List Directive) :
    Prop where
  compiled : Envelope.Arranges directives builder.snapshot
  requested (operation : Operation) :
    Envelope.Arranges directives (operation.request builder.envelope)
  /-- No store counts without a limit. -/
  counted {operation : Operation} {target name : String} {filter : Document}
      {limit skip : Nat} :
    operation.call builder.defaults target
        (operation.request builder.envelope) =
      .count name filter limit skip → limit ≠ 0
  /-- No page is without a limit. -/
  paged (operation : Operation) (cursor : Cursor) :
    (Operation.page (operation.request builder.envelope) cursor).limit ≠ 0

/-- Whatever a builder has been through, its requests are arranged by what it
was told since the last answer. -/
theorem arrangesAll_of_told (told : builder.Told directives) :
    ArrangesAll builder directives := by
  have limited (operation : Operation) :
      (operation.request builder.envelope).limit.toNat ≠ 0 := by
    have positive := (arranges_request told operation).limit_pos
    omega
  refine ⟨?_, arranges_request told, ?_, ?_⟩
  · rw [snapshot, envelope_of_told told]
    exact Envelope.arranges_compile directives
  · intro operation target name filter limit skip counts
    cases operation with
    | count collection =>
        injection counts with _ _ sameLimit _
        exact sameLimit ▸ limited _
    | _ => cases counts
  · intro operation cursor
    exact limited operation

/-- A builder after a limit and a count that was answered. -/
def countedBefore : Run MemoryStore (Operation.count "c").Result :=
  (new.follow (.limit (.ofInt 7))).run Store.memory
    (MemoryStore.empty "sample" default) (.count "c")

/-- The limit before the count does not bound what follows, a limit of zero is
not accepted, and a field to be shown hides the field to be hidden. -/
theorem arrangesAll_of_told_counted :
    let directives : List Directive :=
      [.limit (.ofInt 3), .limit (.ofInt 0), .select [] ["b"],
        .select ["a", "a"] []]
    let builder := directives.foldl follow countedBefore.builder
    builder.Told directives ∧ builder.snapshot.limit = 3 ∧
      builder.snapshot.offset = 0 ∧
      builder.snapshot.projection = [("a", .ofInt 1)] := by
  intro directives builder
  have answered : countedBefore.result = .ok (0 : Nat) := rfl
  have before : Told countedBefore.builder [] :=
    .answered (.followed (.fresh _) _) answered
  have told : builder.Told directives :=
    .followed (.followed (.followed (.followed before _) _) _) _
  have laws := (arrangesAll_of_told told).compiled
  refine ⟨told, laws.limit_eq.trans ?_, laws.offset_eq.trans ?_,
    laws.projection_eq.trans rfl⟩
  · decide
  · decide

end QueryBuilder

end DocQuery
