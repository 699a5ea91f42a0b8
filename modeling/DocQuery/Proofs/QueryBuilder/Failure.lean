import DocQuery.QueryBuilder
import Mathlib.Tactic.Common

/-!
# Queries after a failure

An operation that fails leaves the last request alone, whatever the store.  It
leaves the query alone as well, with one exception: a fetch that adds
conditions keeps them when the store fails, so that they take part in the next
operation.
-/

namespace DocQuery

namespace Operation

/-- Only a fetch with conditions of its own is about another query than the
one that was accumulated. -/
theorem envelope_of_not_getWhere {operation : Operation}
    (plain : ∀ collection fields, operation ≠ .getWhere collection fields)
    (query : Envelope) : operation.envelope query = query := by
  cases operation with
  | getWhere collection fields => exact absurd rfl (plain collection fields)
  | _ => rfl

/-- A fetch with conditions of its own has all it needs when its collection is
named. -/
theorem check_getWhere {collection : String} {fields : Document}
    {updates : Updates} {target : String}
    (checked : (getWhere collection fields).check updates = .ok target) :
    target = Text.trim collection := by
  simp only [check, Operation.target, collection?, missing?] at checked
  split at checked
  · next fault blank => simp at checked
  · next name named =>
      split at named
      · simp at named
      · exact (Except.ok.inj checked).symm.trans (Except.ok.inj named).symm

end Operation

namespace QueryBuilder

variable {State : Type} {builder : QueryBuilder} {store : Store State}
  {state : State} {operation : Operation}

/-- The builder after a failure is the one before it, except that the store
sees and leaves the query that the operation is about. -/
theorem builder_of_failure {failure : Failure}
    (failed : (builder.run store state operation).result = .error failure) :
    ((∃ fault, failure = .configuration fault) ∧
        (builder.run store state operation).builder = builder) ∨
      ∃ target source, operation.check builder.envelope.updates = .ok target ∧
        failure = .store operation.action target source ∧
        (builder.run store state operation).builder =
          { builder with envelope := operation.envelope builder.envelope } := by
  cases checked : operation.check builder.envelope.updates with
  | error fault =>
      rw [run_of_fault checked] at failed ⊢
      exact Or.inl ⟨⟨fault, (Except.error.inj failed).symm⟩, rfl⟩
  | ok target =>
      simp only [run, checked] at failed ⊢
      split at failed
      · next source answered =>
          have same := (Except.error.inj failed).symm
          exact Or.inr ⟨target, source, rfl, same, rfl⟩
      · simp at failed

/-- A failure never changes the last request.  It changes the query exactly
when the store fails during a fetch with conditions that make a difference to
the query. -/
theorem snapshot_of_failure {failure : Failure}
    (failed : (builder.run store state operation).result = .error failure) :
    (builder.run store state operation).builder.last = builder.last ∧
      ((builder.run store state operation).builder.snapshot ≠
          builder.snapshot ↔
        ∃ collection fields source,
          operation = .getWhere collection fields ∧
            failure = .store .get (Text.trim collection) source ∧
            (builder.follow (.condition (.allEqual fields))).snapshot ≠
              builder.snapshot) := by
  rcases builder_of_failure failed with
    ⟨⟨fault, rfl⟩, unchanged⟩ | ⟨target, source, checked, rfl, added⟩
  · rw [unchanged]
    simp
  · rw [added]
    refine ⟨rfl, ?_⟩
    by_cases fetch : ∃ collection fields,
        operation = .getWhere collection fields
    · rcases fetch with ⟨collection, fields, rfl⟩
      rcases Operation.check_getWhere checked with rfl
      constructor
      · intro changed
        exact ⟨collection, fields, source, rfl, rfl, changed⟩
      · rintro ⟨_, _, _, same, -, changed⟩
        rcases Operation.getWhere.inj same with ⟨rfl, rfl⟩
        exact changed
    · have plain : ∀ collection fields,
          operation ≠ .getWhere collection fields :=
        fun collection fields same => fetch ⟨collection, fields, same⟩
      simp only [Operation.envelope_of_not_getWhere plain]
      constructor
      · intro changed
        exact absurd rfl changed
      · rintro ⟨collection, fields, _, same, -⟩
        exact absurd same (plain collection fields)

/-- The query for `a` equal to one is no longer the same after a fetch of those
with `b` equal to two from a store that cannot be reached. -/
theorem snapshot_of_failure_unreachable :
    ∃ failure,
      ((new.follow (.condition (.equal "a" (.ofInt 1)))).run
        (Store.unreachable "connection refused") ()
        (.getWhere "c" [("b", .ofInt 2)])).result = .error failure ∧
      ((new.follow (.condition (.equal "a" (.ofInt 1)))).run
        (Store.unreachable "connection refused") ()
        (.getWhere "c" [("b", .ofInt 2)])).builder.snapshot ≠
          (new.follow (.condition (.equal "a" (.ofInt 1)))).snapshot := by
  refine ⟨.store .get "c" (.connection "connection refused"), rfl, ?_⟩
  refine (snapshot_of_failure rfl).2.mpr
    ⟨"c", [("b", .ofInt 2)], .connection "connection refused", rfl, rfl, ?_⟩
  intro same
  exact absurd (congrArg (fun request => request.filter.length) same)
    (by decide)

end QueryBuilder

end DocQuery
