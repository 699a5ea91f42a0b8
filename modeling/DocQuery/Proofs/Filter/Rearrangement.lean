import DocQuery.Proofs.Filter.Evaluation
import DocQuery.Proofs.Value.WellFormed

/-!
# Filters in another order

The logical operators mean what their names say, and the order in which a
filter is written does not decide what it says of a document.

Trying conditions in order leaves out those behind the one that settles the
matter, so another order evaluates other parts of a filter and can fail where
the first one answered.  What no order can change is the verdict: it looks at
all conditions, takes a failure for an open question, and is settled by one
answer wherever that stands.  An answer that is given is always the verdict.
-/

namespace DocQuery

namespace Filter

/-! ## Verdicts -/

/-- What is known of a condition; it may be open. -/
abbrev Verdict := Option Bool

/-- What is known of several conditions of which one can settle the matter. -/
def combined (settling : Bool) (verdicts : List Verdict) : Verdict :=
  if some settling ∈ verdicts then some settling
  else if none ∈ verdicts then none
  else some !settling

theorem combined_perm (settling : Bool) {verdicts others : List Verdict}
    (permuted : verdicts.Perm others) :
    combined settling verdicts = combined settling others := by
  simp only [combined, permuted.mem_iff]

/-- An answer is the verdict; a failure leaves the verdict unknown. -/
def Reports (outcome : Except StoreError Bool) (verdict : Verdict) : Prop :=
  ∀ answer, outcome = .ok answer → verdict = some answer

theorem reports_error (failure : StoreError) (verdict : Verdict) :
    Reports (.error failure) verdict := by
  intro answer answered
  cases answered

theorem reports_toOption (outcome : Except StoreError Bool) :
    Reports outcome outcome.toOption := by
  intro answer answered
  rw [answered]
  rfl

theorem Reports.negate {outcome : Except StoreError Bool} {verdict : Verdict}
    (reports : Reports outcome verdict) :
    Reports (outcome.map (!·)) (verdict.map (!·)) := by
  intro answer answered
  cases outcome with
  | error failure => cases answered
  | ok first =>
    rcases Except.ok.inj answered with rfl
    rw [reports first rfl, Option.map_some]

/-- Where every condition reports its verdict, so do all of them together. -/
theorem reports_untilSettled {Item : Type} {settling : Bool}
    {items : List Item} {outcome : Item → Except StoreError Bool}
    {verdict : Item → Verdict}
    (each : ∀ item ∈ items, Reports (outcome item) (verdict item)) :
    Reports (untilSettled settling (items.map outcome))
      (combined settling (items.map verdict)) := by
  induction items with
  | nil =>
    intro answer answered
    rcases Except.ok.inj answered with rfl
    rfl
  | cons item rest ih =>
    have others := ih fun later member =>
      each later (List.mem_cons_of_mem item member)
    intro final answered
    simp only [List.map_cons] at answered ⊢
    cases given : outcome item with
    | error failure =>
      rw [given] at answered
      cases answered
    | ok answer =>
      have known : verdict item = some answer :=
        each item List.mem_cons_self answer given
      rw [given, untilSettled] at answered
      by_cases settled : answer = settling
      · rw [if_pos settled] at answered
        rcases Except.ok.inj answered with rfl
        simp [combined, known, settled]
      · rw [if_neg settled] at answered
        have later := others final answered
        simpa [combined, known, Ne.symm settled] using later

/-! ## Verdicts of filters -/

/-- The verdicts of operators that stand together. -/
def operatorVerdicts (value : Option Value) (operators : Document) :
    List Verdict :=
  operators.map fun entry =>
    (meetsOperator value operators entry.1 entry.2).toOption

/-- The verdict of a condition on a value. -/
def conditionVerdict (value : Option Value) (condition : Value) : Verdict :=
  match operators? condition with
  | some operators => combined false (operatorVerdicts value operators)
  | none => some (agrees value condition)

mutual

/-- The verdicts of the entries of a filter. -/
def entryVerdicts (document : Document) :
    List (String × Value) → List Verdict
  | [] => []
  | (name, condition) :: rest =>
    entryVerdict document name condition :: entryVerdicts document rest

/-- The verdict of one entry of a filter. -/
def entryVerdict (document : Document) (name : String) : Value → Verdict
  | .array items =>
    if name = "$or" then combined true (branchVerdicts document items)
    else if name = "$and" then combined false (branchVerdicts document items)
    else if name = "$nor" then
      (combined true (branchVerdicts document items)).map (!·)
    else if isOperatorName name then none
    else conditionVerdict (document.getPath? name) (.array items)
  | condition =>
    if isOperatorName name then none
    else conditionVerdict (document.getPath? name) condition

/-- The verdicts of branches; one that is no filter is open. -/
def branchVerdicts (document : Document) : List Value → List Verdict
  | [] => []
  | .document entries :: rest =>
    combined false (entryVerdicts document entries) ::
      branchVerdicts document rest
  | _ :: rest => none :: branchVerdicts document rest

end

/-- The verdict of a filter on a document. -/
def verdict (document filter : Document) : Verdict :=
  combined false (entryVerdicts document filter)

/-- The verdict of a branch. -/
def branchVerdict (document : Document) (branch : Value) : Verdict :=
  branch.asDocument?.bind (verdict document)

variable {document : Document}

theorem entryVerdicts_eq_map (filter : Document) :
    entryVerdicts document filter =
      filter.map fun entry => entryVerdict document entry.1 entry.2 := by
  induction filter with
  | nil => rfl
  | cons entry rest ih => rw [entryVerdicts, ih, List.map_cons]

theorem branchVerdicts_eq_map (branches : List Value) :
    branchVerdicts document branches =
      branches.map (branchVerdict document) := by
  induction branches with
  | nil => rfl
  | cons branch rest ih =>
    rw [List.map_cons, ← ih]
    cases branch <;> rfl

theorem branchVerdicts_documents (filters : List Document) :
    branchVerdicts document (filters.map .document) =
      filters.map (verdict document) := by
  rw [branchVerdicts_eq_map, List.map_map]
  rfl

theorem reports_meetsCondition (value : Option Value) (condition : Value) :
    Reports (meetsCondition value condition)
      (conditionVerdict value condition) := by
  unfold meetsCondition conditionVerdict
  cases operators? condition with
  | none =>
    intro answer answered
    rcases Except.ok.inj answered with rfl
    rfl
  | some operators =>
    simp only [meetsOperators, meetsEach_eq_untilSettled]
    exact reports_untilSettled fun entry _ => reports_toOption _

/-- A logical operator reports what it does for filters. -/
theorem reports_branches {name : String} {items : List Value}
    {outcome : Except StoreError Bool} {verdict : Verdict}
    (reports : ∀ filters : List Document, items = filters.map .document →
      Reports outcome verdict) :
    Reports ((branches name (.array items)).bind fun _ => outcome)
      verdict := by
  cases accepted : branches name (.array items) with
  | error failure => exact reports_error failure verdict
  | ok =>
    rcases branches_eq_ok_iff.mp accepted with ⟨filters, -, here⟩
    exact reports filters here

/-- A condition that is no array stands for itself alone. -/
theorem reports_field (name : String) (value : Option Value)
    (condition : Value) (logical unknown : StoreError) :
    Reports
      (if name = "$or" ∨ name = "$and" ∨ name = "$nor" then .error logical
        else if isOperatorName name then .error unknown
        else meetsCondition value condition)
      (if isOperatorName name then none
        else conditionVerdict value condition) := by
  by_cases named : name = "$or" ∨ name = "$and" ∨ name = "$nor"
  · rw [if_pos named]
    exact reports_error _ _
  · rw [if_neg named]
    by_cases operator : isOperatorName name
    · rw [if_pos operator]
      exact reports_error _ _
    · rw [if_neg operator, if_neg operator]
      exact reports_meetsCondition _ _

/-- An entry reports its verdict.  The filters that it may hold are smaller
than the entry, so the recursion is on its size. -/
theorem reports_matchesEntry (document : Document) (name : String)
    (condition : Value) :
    Reports (matchesEntry document name condition)
      (entryVerdict document name condition) := by
  cases condition with
  | array items =>
    have together (settling : Bool) {filters : List Document}
        (here : items = filters.map .document) :
        Reports (untilSettled settling (filters.map document.meets))
          (combined settling (branchVerdicts document items)) := by
      rw [here, branchVerdicts_documents]
      refine reports_untilSettled fun filter member => ?_
      rw [meets_eq_untilSettled, verdict, entryVerdicts_eq_map]
      refine reports_untilSettled fun entry entryMember => ?_
      exact reports_matchesEntry document entry.1 entry.2
    rw [matchesEntry, entryVerdict]
    split_ifs with any every neither unknown
    · refine reports_branches fun filters here => ?_
      have tried := together true here
      rwa [← matchesAny_documents, ← here] at tried
    · refine reports_branches fun filters here => ?_
      have tried := together false here
      rwa [← matchesAll_documents, ← here] at tried
    · refine reports_branches fun filters here => ?_
      have tried := together true here
      rw [← matchesAny_documents, ← here] at tried
      exact tried.negate
    · exact reports_error _ _
    · exact reports_meetsCondition _ _
  | _ =>
    simp only [matchesEntry, entryVerdict]
    exact reports_field name _ _ _ _
termination_by sizeOf condition
decreasing_by
  have inFilter := List.sizeOf_lt_of_mem entryMember
  have inItems : sizeOf (Value.document filter) < sizeOf items := by
    rw [here]
    exact List.sizeOf_lt_of_mem (List.mem_map_of_mem member)
  rcases entry with ⟨name, condition⟩
  simp at inFilter inItems ⊢
  omega

/-- An answer to a filter is its verdict. -/
theorem reports_meets (document filter : Document) :
    Reports (document.meets filter) (verdict document filter) := by
  rw [meets_eq_untilSettled, verdict, entryVerdicts_eq_map]
  exact reports_untilSettled fun entry _ =>
    reports_matchesEntry document entry.1 entry.2

/-! ## Other orders -/

/-- A filter and the same filter in another order: of the entries of a filter,
of the branches of a logical operator, or of the operators of a condition, here
or in a branch however deep. -/
inductive Rearranged : Document → Document → Prop
  | entries {filter other : Document} (permuted : filter.Perm other) :
      Rearranged filter other
  | branches {before after : Document} {name : String}
      {branches others : List Value} (logical : IsLogical name)
      (permuted : branches.Perm others) :
      Rearranged (before ++ (name, .array branches) :: after)
        (before ++ (name, .array others) :: after)
  | operators {before after : Document} {path : String}
      {operators others : Document}
      (named : ∀ entry ∈ operators, isOperatorName entry.1 = true)
      (permuted : operators.Perm others) :
      Rearranged (before ++ (path, .document operators) :: after)
        (before ++ (path, .document others) :: after)
  | inside {before after : Document} {name : String}
      {front back : List Value} {branch other : Document}
      (logical : IsLogical name) (rearranged : Rearranged branch other) :
      Rearranged
        (before ++ (name, .array (front ++ .document branch :: back)) :: after)
        (before ++ (name, .array (front ++ .document other :: back)) :: after)
  | trans {filter middle other : Document}
      (first : Rearranged filter middle) (second : Rearranged middle other) :
      Rearranged filter other

/-- A document keeps its names when the value of one entry changes. -/
theorem wellFormed_exchange {before after : Document} {name : String}
    {old new : Value}
    (proper : Document.wellFormed (before ++ (name, old) :: after) = true)
    (newProper : old.wellFormed = true → new.wellFormed = true) :
    Document.wellFormed (before ++ (name, new) :: after) = true := by
  rcases Document.wellFormed_iff.mp proper with ⟨distinct, values⟩
  refine Document.wellFormed_iff.mpr ⟨?_, ?_⟩
  · simpa [Document.Distinct, Document.keys] using distinct
  · intro entry member
    rcases List.mem_append.mp member with earlier | rest
    · exact values entry (by simp [earlier])
    · rcases List.mem_cons.mp rest with rfl | later
      · exact newProper (values (name, old) (by simp))
      · exact values entry (by simp [later])

theorem wellFormed_perm {filter other : Document}
    (permuted : filter.Perm other) (proper : filter.wellFormed = true) :
    other.wellFormed = true := by
  rcases Document.wellFormed_iff.mp proper with ⟨distinct, values⟩
  refine Document.wellFormed_iff.mpr ⟨?_, ?_⟩
  · exact (permuted.map Prod.fst).nodup_iff.mp distinct
  · intro entry member
    exact values entry (permuted.mem_iff.mpr member)

theorem Rearranged.wellFormed {filter other : Document}
    (rearranged : Rearranged filter other)
    (proper : filter.wellFormed = true) : other.wellFormed = true := by
  induction rearranged with
  | entries permuted => exact wellFormed_perm permuted proper
  | branches logical permuted =>
    refine wellFormed_exchange proper fun old => ?_
    rw [Value.wellFormed_array] at old ⊢
    exact fun branch member => old branch (permuted.mem_iff.mpr member)
  | operators named permuted =>
    exact wellFormed_exchange proper (wellFormed_perm permuted)
  | inside logical rearranged ih =>
    refine wellFormed_exchange proper fun old => ?_
    rw [Value.wellFormed_array] at old ⊢
    intro item member
    rcases List.mem_append.mp member with earlier | rest
    · exact old item (by simp [earlier])
    · rcases List.mem_cons.mp rest with rfl | later
      · exact ih (old _ (by simp))
      · exact old item (by simp [later])
  | trans first second firstKeeps secondKeeps =>
    exact secondKeeps (firstKeeps proper)

/-- What a document has under a name does not depend on the order of its
entries. -/
theorem get?_perm {document other : Document} (distinct : document.Distinct)
    (permuted : document.Perm other) (name : String) :
    document.get? name = other.get? name := by
  have otherDistinct : other.Distinct :=
    (permuted.map Prod.fst).nodup_iff.mp distinct
  ext value
  constructor
  · intro found
    exact Document.get?_of_mem otherDistinct
      (permuted.mem_iff.mp (Document.mem_of_get? found))
  · intro found
    exact Document.get?_of_mem distinct
      (permuted.mem_iff.mpr (Document.mem_of_get? found))

/-- An operator reads nothing of the others but what goes with it. -/
theorem meetsOperator_perm {operators others : Document}
    (distinct : operators.Distinct) (permuted : operators.Perm others)
    (value : Option Value) (operator : String) (operand : Value) :
    meetsOperator value operators operator operand =
      meetsOperator value others operator operand := by
  simp only [meetsOperator, get?_perm distinct permuted]

theorem operators?_of_named {operators : Document}
    (named : ∀ entry ∈ operators, isOperatorName entry.1 = true)
    (filled : operators ≠ []) :
    operators? (.document operators) = some operators := by
  cases operators with
  | nil => exact absurd rfl filled
  | cons entry rest => simp [operators?, named entry List.mem_cons_self]

theorem conditionVerdict_perm {operators others : Document}
    (named : ∀ entry ∈ operators, isOperatorName entry.1 = true)
    (distinct : operators.Distinct) (permuted : operators.Perm others)
    (value : Option Value) :
    conditionVerdict value (.document operators) =
      conditionVerdict value (.document others) := by
  by_cases filled : operators = []
  · subst filled
    rw [List.nil_perm.mp permuted]
  · have otherNamed : ∀ entry ∈ others, isOperatorName entry.1 = true :=
      fun entry member => named entry (permuted.mem_iff.mpr member)
    have otherFilled : others ≠ [] := fun empty =>
      filled (List.perm_nil.mp (empty ▸ permuted))
    simp only [conditionVerdict, operators?_of_named named filled,
      operators?_of_named otherNamed otherFilled, operatorVerdicts,
      meetsOperator_perm distinct permuted]
    exact combined_perm false (permuted.map _)

theorem verdict_perm {filter other : Document}
    (permuted : filter.Perm other) :
    verdict document filter = verdict document other := by
  rw [verdict, verdict, entryVerdicts_eq_map, entryVerdicts_eq_map]
  exact combined_perm false (permuted.map _)

/-- A filter keeps its verdict when one entry is exchanged for another with
the same verdict. -/
theorem verdict_exchange {before after : Document} {name : String}
    {old new : Value}
    (same : entryVerdict document name old = entryVerdict document name new) :
    verdict document (before ++ (name, old) :: after) =
      verdict document (before ++ (name, new) :: after) := by
  simp only [verdict, entryVerdicts_eq_map, List.map_append, List.map_cons,
    same]

/-- A logical operator has the verdict that its branches have together. -/
theorem entryVerdict_congr {name : String} (logical : IsLogical name)
    {branches others : List Value}
    (same : ∀ settling,
      combined settling (branchVerdicts document branches) =
        combined settling (branchVerdicts document others)) :
    entryVerdict document name (.array branches) =
      entryVerdict document name (.array others) := by
  rcases logical with rfl | rfl | rfl <;> simp [entryVerdict, same]

/-- The verdict of a filter does not depend on the order in which it is
written. -/
theorem verdict_of_rearranged {filter other : Document}
    (rearranged : Rearranged filter other)
    (proper : filter.wellFormed = true) :
    verdict document filter = verdict document other := by
  induction rearranged with
  | entries permuted => exact verdict_perm permuted
  | branches logical permuted =>
    refine verdict_exchange (entryVerdict_congr logical fun settling => ?_)
    rw [branchVerdicts_eq_map, branchVerdicts_eq_map]
    exact combined_perm settling (permuted.map _)
  | @operators before after path operators others named permuted =>
    have distinct : operators.Distinct := by
      have member : (path, Value.document operators) ∈
          before ++ (path, .document operators) :: after := by simp
      have inner := (Document.wellFormed_iff.mp proper).2 _ member
      exact (Document.wellFormed_iff.mp inner).1
    refine verdict_exchange ?_
    simp only [entryVerdict, conditionVerdict_perm named distinct permuted]
  | @inside before after name front back branch other logical _ ih =>
    have branchProper : branch.wellFormed = true := by
      have member : (name, Value.array (front ++ .document branch :: back)) ∈
          before ++ (name, .array (front ++ .document branch :: back)) ::
            after := by simp
      have inner := (Document.wellFormed_iff.mp proper).2 _ member
      exact Value.wellFormed_array.mp inner (.document branch) (by simp)
    refine verdict_exchange (entryVerdict_congr logical fun settling => ?_)
    simp only [branchVerdicts_eq_map, List.map_append, List.map_cons,
      branchVerdict, Value.asDocument?, Option.bind_some, ih branchProper]
  | trans first _ firstSame secondSame =>
    rw [firstSame proper, secondSame (first.wellFormed proper)]

/-! ## The laws -/

/-- The logical operators and the concatenation of filters mean what their
names say when all filters can be evaluated, and two orders of one filter never
give different answers. -/
theorem meets_boolean_orderless (document : Document) :
    (∀ (filters : List Document) (answer : Document → Bool), filters ≠ [] →
      (∀ filter ∈ filters, document.meets filter = .ok (answer filter)) →
        document.meets [("$and", .array (filters.map .document))] =
            .ok (filters.all answer) ∧
          document.meets [("$or", .array (filters.map .document))] =
            .ok (filters.any answer) ∧
          document.meets [("$nor", .array (filters.map .document))] =
            .ok (filters.all fun filter => !answer filter) ∧
          document.meets filters.flatten = .ok (filters.all answer)) ∧
      ∀ filter other : Document, filter.wellFormed = true →
        Rearranged filter other → ∀ first second : Bool,
          document.meets filter = .ok first →
            document.meets other = .ok second → first = second := by
  constructor
  · intro filters answer filled evaluated
    have every := untilSettled_false_of_ok evaluated
    have any := untilSettled_true_of_ok evaluated
    refine ⟨?_, ?_, ?_, ?_⟩
    · rw [meets_singleton, matchesEntry_and document filled, every]
    · rw [meets_singleton, matchesEntry_or document filled, any]
    · rw [meets_singleton, matchesEntry_nor document filled, any]
      simp [Except.map, List.any_eq_not_all_not]
    · rw [meets_flatten, every]
  · intro filter other proper rearranged first second answered otherAnswered
    have same : verdict document filter = verdict document other :=
      verdict_of_rearranged rearranged proper
    rw [reports_meets document filter first answered,
      reports_meets document other second otherAnswered] at same
    exact Option.some.inj same

def sampleDocument : Document :=
  [("age", .ofInt 30), ("names", .array [.string "Ann", .string "Jo"])]

def nestedFilter : Document :=
  [("$or", .array
      [.document [("age", .document [("$lt", .ofInt 18)])],
        .document
          [("names", .document
              [("$regex", .string "Jo"), ("$options", .string "s")]),
            ("age", .document [("$gte", .ofInt 18)])]]),
    ("town", .null)]

/-- The same filter with the options before the pattern, and its entries and
branches the other way round. -/
def reorderedFilter : Document :=
  [("town", .null),
    ("$or", .array
      [.document
          [("age", .document [("$gte", .ofInt 18)]),
            ("names", .document
              [("$options", .string "s"), ("$regex", .string "Jo")])],
        .document [("age", .document [("$lt", .ofInt 18)])]])]

theorem rearranged_nestedFilter :
    Rearranged nestedFilter reorderedFilter := by
  refine .trans (.entries (.swap _ _ _)) ?_
  have logical : IsLogical "$or" := Or.inr (Or.inl rfl)
  refine .trans (@Rearranged.branches [_] _ _ _ _ logical (.swap _ _ _)) ?_
  refine .trans (@Rearranged.inside [_] _ _ [] _ _ _ logical
    (.entries (.swap _ _ _))) ?_
  exact @Rearranged.inside [_] _ _ [] _ _ _ logical
    (@Rearranged.operators [_] _ _ _ _ (by decide) (.swap _ _ _))

theorem meets_boolean_orderless_nested :
    sampleDocument.meets
        [("$nor", .array
          ([nestedFilter, [("town", .string "Ulm")]].map .document))] =
        .ok false ∧
      ∀ answer, sampleDocument.meets reorderedFilter = .ok answer →
        answer = true := by
  have met : sampleDocument.meets nestedFilter = .ok true := by
    decide +kernel
  have unmet : sampleDocument.meets [("town", .string "Ulm")] = .ok false := by
    decide +kernel
  have laws := meets_boolean_orderless sampleDocument
  constructor
  · exact (laws.1 [nestedFilter, [("town", .string "Ulm")]]
      (fun filter => filter.length == 2) (by decide)
      (by simpa using ⟨met, unmet⟩)).2.2.1
  · intro answer answered
    exact (laws.2 nestedFilter reorderedFilter (by decide)
      rearranged_nestedFilter true answer met answered).symm

end Filter

end DocQuery
