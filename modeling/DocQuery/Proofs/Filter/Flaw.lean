import DocQuery.Proofs.Filter.Evaluation
import DocQuery.Proofs.Outcome

/-!
# Flaws of filters

What is wrong with a part of a filter is told by the filter alone: an operator
that is not known, an operand of another form than its operator asks for, a
logical operator without filters.  But the parts are looked at only as the
evaluation comes to them, and it comes to a part when what is tried before it
lets the evaluation go on.  So a document fails to be matched exactly if the
evaluation on it reaches a flaw.

Where the flaw is, and what has to let pass before it, are kept apart: a
`Passing` says which parts let the evaluation go on.  Then flaws that are
somewhere, that come first, and that are reached on a document are three cases
of one notion.
-/

namespace DocQuery

namespace Filter

/-! ## Operators -/

/-- The operators of a condition that are known. -/
def knownOperators : List String :=
  ["$eq", "$ne", "$gt", "$gte", "$lt", "$lte", "$in", "$nin", "$all",
    "$exists", "$regex", "$near", "$nearSphere", "$options", "$maxDistance"]

/-- What is wrong with an operator of a condition; `all` are the operators
beside it. -/
inductive OperatorFlaw (all : Document) :
    String → Value → StoreError → Prop where
  | unknown {operator : String} {operand : Value}
      (unknown : operator ∉ knownOperators) :
      OperatorFlaw all operator operand
        (.invalidOperation (.unknownOperator operator))
  | noList {operator : String} {operand : Value}
      (listing : operator ∈ ["$in", "$nin", "$all"])
      (noList : operand.asArray? = none) :
      OperatorFlaw all operator operand
        (.invalidOperation (.operandNotArray operator))
  | noText {operand : Value} (noText : operand.asString? = none) :
      OperatorFlaw all "$regex" operand (.invalidOperation .patternNotString)
  | refused {source : String} {refusal : Pattern.Refusal}
      (refused : Pattern.compile source
        (((all.get? "$options").bind Value.asString?).getD "") =
          .error refusal) :
      OperatorFlaw all "$regex" (.string source) (refusalError refusal)
  | noPoint {operator : String} {operand : Value}
      (near : operator ∈ ["$near", "$nearSphere"])
      (noPoint : Point.ofValue? operand = none) :
      OperatorFlaw all operator operand
        (.invalidOperation (.targetNotPoint operator))

section

variable {value limit : Option Value} {all : Document} {operator : String}
  {operand : Value} {failure : StoreError}

theorem listed_eq_error_iff :
    listed operator operand = .error failure ↔
      operand.asArray? = none ∧
        failure = .invalidOperation (.operandNotArray operator) := by
  cases operand <;> simp [listed, Value.asArray?, eq_comm]

theorem matchesPattern_eq_error_iff {options : Option Value} :
    matchesPattern value operand options = .error failure ↔
      (operand.asString? = none ∧
        failure = .invalidOperation .patternNotString) ∨
      ∃ source refusal, operand = .string source ∧
        Pattern.compile source ((options.bind Value.asString?).getD "") =
          .error refusal ∧
        failure = refusalError refusal := by
  cases operand with
  | string source =>
      cases compiled :
          Pattern.compile source ((options.bind Value.asString?).getD "") <;>
        simp [matchesPattern, compiled, Value.asString?, eq_comm]
  | _ => simp [matchesPattern, Value.asString?, eq_comm]

theorem isNear_eq_error_iff :
    isNear operator value operand limit = .error failure ↔
      Point.ofValue? operand = none ∧
        failure = .invalidOperation (.targetNotPoint operator) := by
  unfold isNear
  cases Point.ofValue? operand with
  | none => simp [eq_comm]
  | some there =>
      cases value.bind Point.ofValue? with
      | none => simp
      | some here =>
          simp only [reduceCtorEq, false_and, iff_false]
          split <;> simp

theorem operatorFlaw_of_meetsOperator
    (failed : meetsOperator value all operator operand = .error failure) :
    OperatorFlaw all operator operand failure := by
  unfold meetsOperator at failed
  split at failed
  case h_7 | h_8 | h_9 =>
    simp only [bind, bind_eq_error_iff, listed_eq_error_iff, reduceCtorEq,
      and_false, exists_false, or_false] at failed
    rcases failed with ⟨noList, rfl⟩
    exact OperatorFlaw.noList (by decide) noList
  case h_11 =>
    rcases matchesPattern_eq_error_iff.mp failed with
      ⟨noText, rfl⟩ | ⟨source, refusal, rfl, refused, rfl⟩
    · exact OperatorFlaw.noText noText
    · exact OperatorFlaw.refused refused
  case h_12 | h_13 =>
    rcases isNear_eq_error_iff.mp failed with ⟨noPoint, rfl⟩
    exact OperatorFlaw.noPoint (by decide) noPoint
  case h_16 =>
    rcases Except.error.inj failed with rfl
    apply OperatorFlaw.unknown
    simp_all [knownOperators]
  all_goals cases failed

theorem OperatorFlaw.meetsOperator
    (flaw : OperatorFlaw all operator operand failure)
    (value : Option Value) :
    meetsOperator value all operator operand = .error failure := by
  cases flaw with
  | unknown unknown =>
      unfold Filter.meetsOperator
      split
      case h_16 => rfl
      all_goals exact absurd (by decide) unknown
  | noList listing noList =>
      have refused : listed operator operand = .error _ :=
        listed_eq_error_iff.mpr ⟨noList, rfl⟩
      simp only [List.mem_cons, List.not_mem_nil, or_false] at listing
      rcases listing with rfl | rfl | rfl <;>
        exact bind_eq_error_iff.mpr (Or.inl refused)
  | noText noText =>
      exact matchesPattern_eq_error_iff.mpr (Or.inl ⟨noText, rfl⟩)
  | refused refused =>
      exact matchesPattern_eq_error_iff.mpr (Or.inr ⟨_, _, rfl, refused, rfl⟩)
  | noPoint near noPoint =>
      have refused : isNear operator value operand
          (all.get? "$maxDistance") = .error _ :=
        isNear_eq_error_iff.mpr ⟨noPoint, rfl⟩
      simp only [List.mem_cons, List.not_mem_nil, or_false] at near
      rcases near with rfl | rfl <;> exact refused

/-- An operator fails for what is wrong with it and for nothing else, whatever
it is asked of. -/
theorem meetsOperator_eq_error_iff :
    meetsOperator value all operator operand = .error failure ↔
      OperatorFlaw all operator operand failure := by
  constructor
  · exact operatorFlaw_of_meetsOperator
  · exact fun flaw => flaw.meetsOperator value

end

/-! ## Filters -/

/-- Which parts of a filter let the evaluation go on to the part behind
them. -/
structure Passing where
  /-- The entries of a filter. -/
  entries : Document → Prop
  /-- The first operators of a condition on a path, among all of them. -/
  operators : String → Document → Document → Prop
  /-- The first branches of a logical operator, each with the given answer. -/
  branches : Bool → List Document → Prop

namespace Passing

/-- The evaluation comes to every part. -/
def anywhere : Passing where
  entries _ := True
  operators _ _ _ := True
  branches _ _ := True

/-- The evaluation comes to what nothing stands before. -/
def atOnce : Passing where
  entries before := before = []
  operators _ _ before := before = []
  branches _ earlier := earlier = []

/-- The evaluation on a document goes on where all entries or operators are
met, and where no branch settles the matter. -/
def on (document : Document) : Passing where
  entries before := document.meets before = .ok true
  operators path all before :=
    meetsEach (document.getPath? path) all before = .ok true
  branches met earlier :=
    ∀ filter ∈ earlier, document.meets filter = .ok met

/-- What lets the evaluation pass in one sense does so in another. -/
structure Implies (passing other : Passing) : Prop where
  entries : ∀ before, passing.entries before → other.entries before
  operators : ∀ path all before,
    passing.operators path all before → other.operators path all before
  branches : ∀ met earlier,
    passing.branches met earlier → other.branches met earlier

theorem implies_anywhere (passing : Passing) : passing.Implies anywhere where
  entries _ _ := trivial
  operators _ _ _ _ := trivial
  branches _ _ _ := trivial

theorem atOnce_implies_on (document : Document) :
    atOnce.Implies (on document) where
  entries before first := by
    subst first
    exact document.meets_nil
  operators path all before first := by
    subst first
    rfl
  branches met earlier first := by
    subst first
    simp [on]

end Passing

/-- Something is wrong with a part of a filter that the evaluation comes to.
Under `$and` it goes on to the next branch as long as branches are met, under
the other logical operators as long as they are not. -/
inductive Flaw (passing : Passing) : Document → StoreError → Prop where
  | unknown {before after : Document} {name : String} {condition : Value}
      (passed : passing.entries before) (named : isOperatorName name = true)
      (unlogical : ¬ IsLogical name) :
      Flaw passing (before ++ (name, condition) :: after)
        (.invalidOperation (.unknownTopLevelOperator name))
  | logical {before after : Document} {name : String} {condition : Value}
      {failure : StoreError}
      (passed : passing.entries before) (logical : IsLogical name)
      (refused : branches name condition = .error failure) :
      Flaw passing (before ++ (name, condition) :: after) failure
  | branch {before after : Document} {name : String}
      {earlier later : List Document} {filter : Document}
      {failure : StoreError}
      (passed : passing.entries before) (logical : IsLogical name)
      (tried : passing.branches (name == "$and") earlier)
      (inside : Flaw passing filter failure) :
      Flaw passing
        (before ++ (name, .array ((earlier ++ filter :: later).map .document))
          :: after) failure
  | operator {before after : Document} {path operator : String}
      {first rest : Document} {condition operand : Value}
      {failure : StoreError}
      (passed : passing.entries before) (field : isOperatorName path = false)
      (form : operators? condition = some (first ++ (operator, operand) :: rest))
      (met : passing.operators path (first ++ (operator, operand) :: rest)
        first)
      (flaw : OperatorFlaw (first ++ (operator, operand) :: rest) operator
        operand failure) :
      Flaw passing (before ++ (path, condition) :: after) failure

/-- Flaws that the evaluation comes to in one sense are among those that it
comes to in another. -/
theorem Flaw.mono {passing other : Passing} (implies : passing.Implies other)
    {filter : Document} {failure : StoreError}
    (flaw : Flaw passing filter failure) : Flaw other filter failure := by
  induction flaw with
  | unknown passed named unlogical =>
      exact Flaw.unknown (implies.entries _ passed) named unlogical
  | logical passed logical refused =>
      exact Flaw.logical (implies.entries _ passed) logical refused
  | branch passed logical tried _ ih =>
      exact Flaw.branch (implies.entries _ passed) logical
        (implies.branches _ _ tried) ih
  | operator passed field form met flaw =>
      exact Flaw.operator (implies.entries _ passed) field form
        (implies.operators _ _ _ met) flaw

/-! ## Entries -/

variable {document filter : Document} {name : String} {condition : Value}
  {failure : StoreError}

theorem matchesEntry_of_unlogical (named : isOperatorName name = true)
    (unlogical : ¬ IsLogical name) :
    matchesEntry document name condition =
      .error (.invalidOperation (.unknownTopLevelOperator name)) := by
  simp only [IsLogical, not_or] at unlogical
  unfold matchesEntry
  split <;> simp [unlogical, named]

theorem exists_of_branches_eq_ok (accepted : branches name condition = .ok ()) :
    ∃ filters : List Document,
      filters ≠ [] ∧ condition = .array (filters.map .document) := by
  cases condition with
  | array items =>
      rcases branches_eq_ok_iff.mp accepted with ⟨filters, filled, rfl⟩
      exact ⟨filters, filled, rfl⟩
  | _ => cases accepted

theorem matchesEntry_of_branches_error (logical : IsLogical name)
    (refused : branches name condition = .error failure) :
    matchesEntry document name condition = .error failure := by
  unfold matchesEntry
  split
  · rcases logical with rfl | rfl | rfl <;> simp [refused, Except.bind]
  · next noArray =>
      have empty : branches name condition =
          .error (.invalidOperation (.noBranches name)) := by
        unfold branches
        split
        · next items => exact absurd rfl (noArray items)
        · rfl
      rcases logical with rfl | rfl | rfl <;> simp_all

/-- The evaluation of branches fails as the evaluation of one of them does
that it comes to. -/
theorem matchesEntry_branches_eq_error_iff (logical : IsLogical name)
    {filters : List Document} (filled : filters ≠ []) :
    matchesEntry document name (.array (filters.map .document)) =
        .error failure ↔
      ∃ earlier filter later, filters = earlier ++ filter :: later ∧
        (∀ tried ∈ earlier, document.meets tried = .ok (name == "$and")) ∧
        document.meets filter = .error failure := by
  rcases logical with rfl | rfl | rfl
  · rw [matchesEntry_and document filled, untilSettled_eq_error_iff]
    rfl
  · rw [matchesEntry_or document filled, untilSettled_eq_error_iff]
    rfl
  · rw [matchesEntry_nor document filled, map_eq_error_iff,
      untilSettled_eq_error_iff]
    rfl

theorem meetsEach_eq_ok_true_iff {value : Option Value}
    {all operators : Document} :
    meetsEach value all operators = .ok true ↔
      ∀ entry ∈ operators, meetsOperator value all entry.1 entry.2 =
        .ok true := by
  rw [meetsEach_eq_untilSettled]
  exact @untilSettled_eq_ok_not_iff _ false operators _

theorem meetsEach_eq_error_iff {value : Option Value}
    {all operators : Document} :
    meetsEach value all operators = .error failure ↔
      ∃ first operator operand rest,
        operators = first ++ (operator, operand) :: rest ∧
        meetsEach value all first = .ok true ∧
        OperatorFlaw all operator operand failure := by
  rw [meetsEach_eq_untilSettled, untilSettled_eq_error_iff]
  constructor
  · rintro ⟨first, ⟨operator, operand⟩, rest, shape, met, failed⟩
    exact ⟨first, operator, operand, rest, shape,
      meetsEach_eq_ok_true_iff.mpr met, meetsOperator_eq_error_iff.mp failed⟩
  · rintro ⟨first, operator, operand, rest, shape, met, flaw⟩
    exact ⟨first, (operator, operand), rest, shape,
      meetsEach_eq_ok_true_iff.mp met, flaw.meetsOperator value⟩

/-- A condition fails as one of its operators does where all operators before
are met. -/
theorem meetsCondition_eq_error_iff {value : Option Value} :
    meetsCondition value condition = .error failure ↔
      ∃ first operator operand rest,
        operators? condition = some (first ++ (operator, operand) :: rest) ∧
        meetsEach value (first ++ (operator, operand) :: rest) first =
          .ok true ∧
        OperatorFlaw (first ++ (operator, operand) :: rest) operator operand
          failure := by
  unfold meetsCondition
  cases operators? condition with
  | none => simp
  | some operators =>
      simp only [Option.some.injEq]
      rw [meetsOperators, meetsEach_eq_error_iff]
      constructor
      · rintro ⟨first, operator, operand, rest, rfl, met, flaw⟩
        exact ⟨first, operator, operand, rest, rfl, met, flaw⟩
      · rintro ⟨first, operator, operand, rest, rfl, met, flaw⟩
        exact ⟨first, operator, operand, rest, rfl, met, flaw⟩

/-- A filter fails on a document as one of its entries does where all entries
before are met. -/
theorem meets_eq_error_iff_entry :
    document.meets filter = .error failure ↔
      ∃ before name condition after,
        filter = before ++ (name, condition) :: after ∧
        document.meets before = .ok true ∧
        matchesEntry document name condition = .error failure := by
  have passed (before : Document) : document.meets before = .ok true ↔
      ∀ entry ∈ before, matchesEntry document entry.1 entry.2 = .ok true := by
    rw [meets_eq_untilSettled]
    exact @untilSettled_eq_ok_not_iff _ false before _
  rw [meets_eq_untilSettled, untilSettled_eq_error_iff]
  constructor
  · rintro ⟨before, ⟨name, condition⟩, after, shape, met, failed⟩
    exact ⟨before, name, condition, after, shape, (passed before).mpr met,
      failed⟩
  · rintro ⟨before, name, condition, after, shape, met, failed⟩
    exact ⟨before, (name, condition), after, shape, (passed before).mp met,
      failed⟩

/-! ## Evaluation -/

/-- A flaw that the evaluation comes to is the failure. -/
theorem Flaw.meets (flaw : Flaw (.on document) filter failure) :
    document.meets filter = .error failure := by
  induction flaw with
  | unknown passed named unlogical =>
      exact meets_eq_error_iff_entry.mpr ⟨_, _, _, _, rfl, passed,
        matchesEntry_of_unlogical named unlogical⟩
  | logical passed logical refused =>
      exact meets_eq_error_iff_entry.mpr ⟨_, _, _, _, rfl, passed,
        matchesEntry_of_branches_error logical refused⟩
  | branch passed logical tried _ ih =>
      exact meets_eq_error_iff_entry.mpr ⟨_, _, _, _, rfl, passed,
        (matchesEntry_branches_eq_error_iff logical (by simp)).mpr
          ⟨_, _, _, rfl, tried, ih⟩⟩
  | operator passed field form met flaw =>
      refine meets_eq_error_iff_entry.mpr ⟨_, _, _, _, rfl, passed, ?_⟩
      rw [matchesEntry_of_field _ field]
      exact meetsCondition_eq_error_iff.mpr ⟨_, _, _, _, form, met, flaw⟩

theorem sizeOf_branch_lt (before after : Document) (name : String)
    (earlier later : List Document) (filter : Document) :
    sizeOf filter < sizeOf (before ++
      (name, Value.array ((earlier ++ filter :: later).map .document)) ::
        after) := by
  have branch : Value.document filter ∈
      (earlier ++ filter :: later).map .document :=
    List.mem_map_of_mem (by simp)
  have entry : (name, Value.array
      ((earlier ++ filter :: later).map .document)) ∈ before ++
        (name, .array ((earlier ++ filter :: later).map .document)) ::
          after := by
    simp
  have inBranches := List.sizeOf_lt_of_mem branch
  have inEntries := List.sizeOf_lt_of_mem entry
  simp only [Value.document.sizeOf_spec] at inBranches
  simp only [Prod.mk.sizeOf_spec, Value.array.sizeOf_spec] at inEntries
  omega

/-- Every failure is a flaw that the evaluation comes to. -/
theorem flaw_of_meets {document : Document} (filter : Document)
    {failure : StoreError} (failed : document.meets filter = .error failure) :
    Flaw (.on document) filter failure := by
  rcases meets_eq_error_iff_entry.mp failed with
    ⟨before, name, condition, after, rfl, passed, inEntry⟩
  by_cases field : isOperatorName name = false
  · rw [matchesEntry_of_field _ field] at inEntry
    rcases meetsCondition_eq_error_iff.mp inEntry with
      ⟨first, operator, operand, rest, form, met, flaw⟩
    exact Flaw.operator passed field form met flaw
  · rw [Bool.not_eq_false] at field
    by_cases logical : IsLogical name
    · cases accepted : branches name condition with
      | error reason =>
          rw [matchesEntry_of_branches_error logical accepted] at inEntry
          rcases Except.error.inj inEntry with rfl
          exact Flaw.logical passed logical accepted
      | ok _ =>
          rcases exists_of_branches_eq_ok accepted with
            ⟨filters, filled, rfl⟩
          rcases (matchesEntry_branches_eq_error_iff logical filled).mp
            inEntry with ⟨earlier, filter, later, rfl, tried, inside⟩
          exact Flaw.branch passed logical tried (flaw_of_meets filter inside)
    · rw [matchesEntry_of_unlogical field logical] at inEntry
      rcases Except.error.inj inEntry with rfl
      exact Flaw.unknown passed field logical
termination_by sizeOf filter
decreasing_by
  subst_vars
  exact sizeOf_branch_lt ..

/-- A filter fails on a document exactly as a flaw says that the evaluation
comes to. -/
theorem meets_eq_error_iff :
    document.meets filter = .error failure ↔
      Flaw (.on document) filter failure := by
  constructor
  · exact flaw_of_meets filter
  · exact Flaw.meets

end Filter

end DocQuery
