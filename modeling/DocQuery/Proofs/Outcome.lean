import Mathlib.Tactic.Common

/-!
# Computations that may fail

What is known of the steps of a computation when the whole of it succeeded,
and what a sequence of such computations preserves.
-/

namespace DocQuery

variable {Failure First Second : Type}

/-- A computation in two steps succeeded exactly when both steps did. -/
theorem bind_eq_ok_iff {first : Except Failure First}
    {next : First → Except Failure Second} {result : Second} :
    first.bind next = .ok result ↔
      ∃ middle, first = .ok middle ∧ next middle = .ok result := by
  cases first <;> simp [Except.bind]

theorem map_eq_ok_iff {first : Except Failure First}
    {function : First → Second} {result : Second} :
    first.map function = .ok result ↔
      ∃ middle, first = .ok middle ∧ function middle = result := by
  cases first <;> simp [Except.map]

theorem map_eq_error_iff {first : Except Failure First}
    {function : First → Second} {failure : Failure} :
    first.map function = .error failure ↔ first = .error failure := by
  cases first <;> simp [Except.map]

/-- A computation in two steps failed exactly when the first step did, or the
second one after it. -/
theorem bind_eq_error_iff {first : Except Failure First}
    {next : First → Except Failure Second} {failure : Failure} :
    first.bind next = .error failure ↔
      first = .error failure ∨
        ∃ middle, first = .ok middle ∧ next middle = .error failure := by
  cases first <;> simp [Except.bind]

/-- A second part of the result does not matter to the first one. -/
theorem map_fst_bind_ok {Part Rest : Type} (outcome : Except Failure First)
    (part : First → Part) (rest : First → Rest) :
    (outcome.bind fun result => .ok (part result, rest result)).map Prod.fst =
      outcome.map part := by
  cases outcome <;> rfl

/-- What every step of a fold preserves holds after the whole fold. -/
theorem holds_of_foldlM (Invariant : Second → Prop)
    {step : Second → First → Except Failure Second} {items : List First}
    {start last : Second}
    (preserves : ∀ item ∈ items, ∀ {before after},
      Invariant before → step before item = .ok after → Invariant after)
    (initial : Invariant start) (run : items.foldlM step start = .ok last) :
    Invariant last := by
  induction items generalizing start with
  | nil =>
      rcases Except.ok.inj run with rfl
      exact initial
  | cons item rest ih =>
      simp only [List.foldlM_cons, bind, bind_eq_ok_iff] at run
      rcases run with ⟨middle, first, others⟩
      exact ih (fun later member => preserves later (by simp [member]))
        (preserves item (by simp) initial first) others

/-- A fold fails exactly where all steps before succeed and the next one does
not. -/
theorem foldlM_eq_error_iff {step : Second → First → Except Failure Second}
    {items : List First} {start : Second} {failure : Failure} :
    items.foldlM step start = .error failure ↔
      ∃ before item after reached, items = before ++ item :: after ∧
        before.foldlM step start = .ok reached ∧
        step reached item = .error failure := by
  constructor
  · intro failed
    induction items generalizing start with
    | nil => cases failed
    | cons item rest ih =>
        simp only [List.foldlM_cons, bind, bind_eq_error_iff] at failed
        rcases failed with failed | ⟨middle, first, failed⟩
        · exact ⟨[], item, rest, start, rfl, rfl, failed⟩
        · rcases ih failed with ⟨before, bad, after, reached, rfl, run, last⟩
          refine ⟨item :: before, bad, after, reached, rfl, ?_, last⟩
          simp only [List.foldlM_cons, bind, bind_eq_ok_iff]
          exact ⟨middle, first, run⟩
  · rintro ⟨before, item, after, reached, rfl, run, failed⟩
    simp only [List.foldlM_append, List.foldlM_cons, run, bind, Except.bind,
      failed]

end DocQuery
