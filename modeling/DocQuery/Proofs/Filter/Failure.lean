import DocQuery.Filter

/-!
# Failures of filters

Whatever a document holds, a filter fails only for what is wrong with the
filter itself: an operator that is not known, or an operand of another form
than its operator asks for.
-/

namespace DocQuery

/-- What can be wrong with a filter. -/
def Misuse.isOfFilter : Misuse → Bool
  | .unknownTopLevelOperator _ | .unknownOperator _ | .noBranches _
  | .branchNotDocument _ | .operandNotArray _ | .patternNotString
  | .unknownPatternFlag _ | .malformedPattern | .targetNotPoint _ => true
  | .payloadNotDocument _ | .incrementNotNumeric _ | .fieldNotArray _
  | .renameTargetNotString | .unknownUpdateOperator _ | .noIndexKeys => false

/-- Something is wrong with a filter. -/
def StoreError.isOfFilter : StoreError → Bool
  | .invalidOperation reason => reason.isOfFilter
  | _ => false

namespace Filter

variable {First Second : Type}

/-- A computation fails only for what is wrong with a filter. -/
def BlamesFilter (outcome : Except StoreError First) : Prop :=
  ∀ failure, outcome = .error failure → failure.isOfFilter = true

@[simp]
theorem blamesFilter_ok (result : First) :
    BlamesFilter (.ok result : Except StoreError First) := by
  simp [BlamesFilter]

@[simp]
theorem blamesFilter_error {reason : Misuse} :
    BlamesFilter (.error (.invalidOperation reason) : Except StoreError First) ↔
      reason.isOfFilter = true := by
  simp [BlamesFilter, StoreError.isOfFilter]

theorem BlamesFilter.bind {first : Except StoreError First}
    {next : First → Except StoreError Second} (blames : BlamesFilter first)
    (further : ∀ result, BlamesFilter (next result)) :
    BlamesFilter (first.bind next) := by
  cases first with
  | error failure =>
      rintro _ ⟨rfl⟩
      exact blames failure rfl
  | ok result => exact further result

theorem BlamesFilter.map {first : Except StoreError First}
    {function : First → Second} (blames : BlamesFilter first) :
    BlamesFilter (first.map function) :=
  blames.bind fun result => blamesFilter_ok (function result)

theorem blamesFilter_listed (operator : String) (operand : Value) :
    BlamesFilter (listed operator operand) := by
  unfold listed
  split <;> simp [Misuse.isOfFilter]

theorem blamesFilter_matchesPattern (value : Option Value) (pattern : Value)
    (options : Option Value) :
    BlamesFilter (matchesPattern value pattern options) := by
  unfold matchesPattern
  split
  · split
    · next refusal _ =>
        cases refusal <;> simp [refusalError, Misuse.isOfFilter]
    · simp
  · simp [Misuse.isOfFilter]

theorem blamesFilter_isNear (operator : String) (value : Option Value)
    (target : Value) (limit : Option Value) :
    BlamesFilter (isNear operator value target limit) := by
  unfold isNear
  split
  · simp [Misuse.isOfFilter]
  · split
    · simp
    · dsimp only
      split <;> simp

theorem blamesFilter_meetsOperator (value : Option Value) (all : Document)
    (operator : String) (operand : Value) :
    BlamesFilter (meetsOperator value all operator operand) := by
  unfold meetsOperator
  split
  case h_7 | h_8 | h_9 =>
    exact (blamesFilter_listed _ _).bind fun _ => blamesFilter_ok _
  case h_11 => exact blamesFilter_matchesPattern _ _ _
  case h_12 | h_13 => exact blamesFilter_isNear _ _ _ _
  all_goals simp [Misuse.isOfFilter]

theorem blamesFilter_meetsEach (value : Option Value)
    (all operators : Document) :
    BlamesFilter (meetsEach value all operators) := by
  induction operators with
  | nil => exact blamesFilter_ok true
  | cons entry rest ih =>
      rcases entry with ⟨operator, operand⟩
      have first := blamesFilter_meetsOperator value all operator operand
      unfold meetsEach
      split
      · next failed => rwa [failed] at first
      · simp
      · exact ih

theorem blamesFilter_meetsCondition (value : Option Value) (condition : Value) :
    BlamesFilter (meetsCondition value condition) := by
  unfold meetsCondition
  split
  · exact blamesFilter_meetsEach _ _ _
  · simp

theorem blamesFilter_branches (operator : String) (operand : Value) :
    BlamesFilter (branches operator operand) := by
  unfold branches
  split
  · split
    · simp [Misuse.isOfFilter]
    · split <;> simp [Misuse.isOfFilter]
  · simp [Misuse.isOfFilter]

/-- Evaluating a filter, one of its entries, or its branches fails only for
what is wrong with the filter. -/
theorem blamesFilter_evaluation (document : Document) :
    (∀ entries, BlamesFilter (matchesEntries document entries)) ∧
      (∀ name condition, BlamesFilter (matchesEntry document name condition)) ∧
      (∀ branches, BlamesFilter (matchesAll document branches)) ∧
      ∀ branches, BlamesFilter (matchesAny document branches) := by
  apply matchesEntries.mutual_induct document
  -- One entry: a logical operator over branches, or a condition on a path.
  case case1 =>
    intro items any
    rw [matchesEntry, if_pos rfl]
    exact (blamesFilter_branches _ _).bind fun _ => any
  case case2 =>
    intro items notAny every
    rw [matchesEntry, if_neg notAny, if_pos rfl]
    exact (blamesFilter_branches _ _).bind fun _ => every
  case case3 =>
    intro items notAny notEvery any
    rw [matchesEntry, if_neg notAny, if_neg notEvery, if_pos rfl]
    exact (blamesFilter_branches _ _).bind fun _ => any.map
  case case4 => simp +contextual [matchesEntry, Misuse.isOfFilter]
  case case5 =>
    simp +contextual [matchesEntry, blamesFilter_meetsCondition]
  case case6 =>
    intro condition name logical notArray
    rw [matchesEntry.eq_2 _ _ _ notArray, if_pos logical]
    simp [Misuse.isOfFilter]
  case case7 =>
    intro condition name notLogical named notArray
    rw [matchesEntry.eq_2 _ _ _ notArray, if_neg notLogical, if_pos named]
    simp [Misuse.isOfFilter]
  case case8 =>
    intro condition name notLogical field notArray
    rw [matchesEntry.eq_2 _ _ _ notArray, if_neg notLogical, if_neg field]
    exact blamesFilter_meetsCondition _ _
  -- Lists: the first failure, or the first deciding answer, is the outcome.
  case case9 => exact blamesFilter_ok true
  case case10 =>
    intro name condition rest failure failed first
    simpa only [matchesEntries, failed] using first
  case case11 =>
    intro name condition rest unmet first
    simp [matchesEntries, unmet]
  case case12 =>
    intro name condition rest met first others
    simpa only [matchesEntries, met] using others
  case case13 =>
    intro entries rest failure failed first
    simpa only [matchesAll, failed] using first
  case case14 =>
    intro entries rest unmet first
    simp [matchesAll, unmet]
  case case15 =>
    intro entries rest met first others
    simpa only [matchesAll, met] using others
  case case16 =>
    intro branches noBranch
    simp [matchesAll.eq_2 _ _ noBranch]
  case case17 =>
    intro entries rest failure failed first
    simpa only [matchesAny, failed] using first
  case case18 =>
    intro entries rest met first
    simp [matchesAny, met]
  case case19 =>
    intro entries rest unmet first others
    simpa only [matchesAny, unmet] using others
  case case20 =>
    intro branches noBranch
    simp [matchesAny.eq_2 _ _ noBranch]

/-- A document fails to be matched only for what is wrong with the filter. -/
theorem blamesFilter_meets (document filter : Document) :
    BlamesFilter (document.meets filter) :=
  (blamesFilter_evaluation document).1 filter

end Filter

end DocQuery
