import DocQuery.Proofs.Clause.Directive
import DocQuery.Proofs.Grouping

/-!
# What conditions come to

Every condition asserts something of fields, or adds branches.  The filter of
a query groups the assertions by their fields: the predicate of a field is
read off the assertions about it, and the conditions on other fields do not
matter.
-/

namespace DocQuery

open Grouping

/-- What is asserted of one field. -/
inductive Assertion where
  /-- The field equals a literal. -/
  | literal (value : Value)
  /-- The field holds a text. -/
  | text (pattern : TextPattern)
  /-- The field meets an operator. -/
  | operator (name : String) (operand : Value)

namespace Assertion

/-- The operator that an assertion sets, with its operand. -/
def operator? : Assertion → Option (String × Value)
  | .operator name operand => some (name, operand)
  | _ => none

/-- The operators that were set since the last literal or text. -/
def latestOperators (assertions : List Assertion) : List (String × Value) :=
  (assertions.rtakeWhile fun assertion =>
    assertion.operator?.isSome).filterMap operator?

/-- The predicate on a field of which assertions were made: the last of them
if it is a literal or a text, and otherwise the operators that were set since
the last literal or text, every one at the place where it was set first with
the operand that it was given last. -/
def settled (assertions : List Assertion) : Predicate :=
  match assertions.getLast? with
  | some (.literal value) => .literal value
  | some (.text pattern) => .like pattern
  | _ => .operators (Document.lastGiven (latestOperators assertions))

/-- The predicate after one more assertion. -/
def amend : Assertion → Predicate → Predicate
  | .literal value => fun _ => .literal value
  | .text pattern => fun _ => .like pattern
  | .operator name operand => Predicates.putOperator name operand

theorem latestOperators_concat (assertions : List Assertion)
    (last : Assertion) :
    latestOperators (assertions ++ [last]) =
      last.operator?.elim [] fun operator =>
        latestOperators assertions ++ [operator] := by
  rw [latestOperators, List.rtakeWhile_concat]
  cases last with
  | operator => simp [operator?, latestOperators]
  | _ => rfl

/-- The predicate after the assertions and one more. -/
theorem settled_concat (assertions : List Assertion) (last : Assertion) :
    settled (assertions ++ [last]) = last.amend (settled assertions) := by
  cases last with
  | literal => simp [settled, amend]
  | text => simp [settled, amend]
  | operator name operand =>
    have latest : settled (assertions ++ [.operator name operand]) =
        .operators ((Document.lastGiven (latestOperators assertions)).insert
          name operand) := by
      simp only [settled, List.getLast?_concat, latestOperators_concat,
        operator?, Option.elim_some, ← Document.merge_lastGiven,
        Document.merge, List.foldl_cons, List.foldl_nil]
    rw [latest]
    -- Only what comes last before the operator says whether it joins others.
    induction assertions using List.reverseRecOn with
    | nil => rfl
    | append_singleton before previous =>
      cases previous with
      | operator => simp [settled, amend, Predicates.putOperator]
      | literal | text =>
        simp only [settled, List.getLast?_concat, latestOperators_concat,
          operator?, Option.elim_none, amend, Predicates.putOperator]
        rfl

theorem putOperator_ne_nil (name : String) (operand : Value)
    (predicate : Predicate) :
    Predicates.putOperator name operand predicate ≠ .operators [] := by
  cases predicate with
  | operators entries =>
    intro empty
    have found := Document.get?_insert_self entries name operand
    rw [Predicate.operators.inj empty] at found
    cases found
  | _ => simp [Predicates.putOperator]

theorem amend_ne_nil (assertion : Assertion) (predicate : Predicate) :
    assertion.amend predicate ≠ .operators [] := by
  cases assertion with
  | operator name operand => exact putOperator_ne_nil name operand predicate
  | _ => simp [amend]

/-- A field of which something was asserted is not left with no operator. -/
theorem settled_ne_nil {assertions : List Assertion}
    (spoken : assertions ≠ []) : settled assertions ≠ .operators [] := by
  rw [← List.dropLast_append_getLast spoken, settled_concat]
  exact amend_ne_nil _ _

end Assertion

namespace Condition

/-- What a condition asserts, field by field. -/
def assertions : Condition → List (String × Assertion)
  | .equal field value => [(field, .literal value)]
  | .allEqual fields => fields.map fun (field, value) => (field, .literal value)
  | .someEqual _ => []
  | .isIn field values => [(field, .operator "$in" (.array values))]
  | .hasAll field values => [(field, .operator "$all" (.array values))]
  | .notIn field values => [(field, .operator "$nin" (.array values))]
  | .greater field value => [(field, .operator "$gt" value)]
  | .atLeast field value => [(field, .operator "$gte" value)]
  | .less field value => [(field, .operator "$lt" value)]
  | .atMost field value => [(field, .operator "$lte" value)]
  | .different field value => [(field, .operator "$ne" value)]
  | .between field low high =>
    [(field, .operator "$gte" low), (field, .operator "$lte" high)]
  | .strictlyBetween field low high =>
    [(field, .operator "$gt" low), (field, .operator "$lt" high)]
  | .near field target none spherical =>
    [(field, .operator (Predicates.nearOperator spherical) target)]
  | .near field target (some distance) spherical =>
    [(field, .operator (Predicates.nearOperator spherical) target),
      (field, .operator "$maxDistance" (.double distance))]
  | .like field text options =>
    [(Text.trim field, .text (Like.pattern text options))]

/-- The branches that a condition adds. -/
def fragments : Condition → List Document
  | .someEqual fields => fields.map fun entry => [entry]
  | _ => []

/-- What conditions assert, field by field. -/
def asserted (conditions : List Condition) : List (String × Assertion) :=
  conditions.flatMap assertions

/-- What conditions add to the branches. -/
def allFragments (conditions : List Condition) : List Document :=
  conditions.flatMap fragments

end Condition

namespace Predicates

/-- Let a field be as asserted. -/
def assert (fields : List (String × Predicate)) :
    String × Assertion → List (String × Predicate)
  | (field, assertion) => change assertion.amend field fields

/-- Add a branch to those that there are. -/
def branch (branches : Option (List Document)) (fragment : Document) :
    Option (List Document) :=
  some (branches.getD [] ++ [fragment])

theorem change_eq_put (edit : Predicate → Predicate) (field : String)
    (fields : List (String × Predicate)) :
    change edit field fields =
      put field (fun old => edit (old.getD (.operators []))) fields := by
  induction fields with
  | nil => rfl
  | cons entry rest ih =>
    rcases entry with ⟨known, predicate⟩
    simp only [change, put, ih, Option.getD_some]

theorem assert_eq_put (fields : List (String × Predicate))
    (asserted : String × Assertion) :
    assert fields asserted =
      put asserted.1
        (fun old => asserted.2.amend (old.getD (.operators []))) fields :=
  change_eq_put _ _ fields

theorem fields_require (predicates : Predicates) (condition : Condition) :
    (predicates.require condition).fields =
      condition.assertions.foldl assert predicates.fields := by
  cases condition with
  | allEqual fields =>
    simp only [require, Condition.assertions, List.foldl_map]
    exact (List.foldl_hom Predicates.fields fun _ _ => rfl).symm
  | someEqual fields =>
    simp only [require, Condition.assertions, List.foldl_nil]
    refine foldl_unchanged Predicates.fields ?_ fields predicates
    exact fun _ _ => rfl
  | near field target distance spherical => cases distance <;> rfl
  | _ => rfl

theorem branches_require (predicates : Predicates) (condition : Condition) :
    (predicates.require condition).branches =
      condition.fragments.foldl branch predicates.branches := by
  cases condition with
  | allEqual fields =>
    simp only [require, Condition.fragments, List.foldl_nil]
    refine foldl_unchanged Predicates.branches ?_ fields predicates
    exact fun _ _ => rfl
  | someEqual fields =>
    simp only [require, Condition.fragments, List.foldl_map]
    exact (List.foldl_hom Predicates.branches fun _ _ => rfl).symm
  | near field target distance spherical => cases distance <;> rfl
  | _ => rfl

/-- The fields after conditions that are stated from the beginning. -/
theorem fields_foldl_require (conditions : List Condition) :
    (conditions.foldl require empty).fields =
      grouped (fun _ => Assertion.settled) (Condition.asserted conditions) := by
  rw [foldl_pieces fields fields_require,
    funext fun fields => funext (assert_eq_put fields)]
  exact foldl_put
    (fun (_ : String) assertion old =>
      Assertion.amend assertion (old.getD (.operators [])))
    (fun _ assertion => Assertion.settled_concat [] assertion)
    (fun _ assertions assertion _ =>
      Assertion.settled_concat assertions assertion) _

/-- The branches after conditions that are stated from the beginning. -/
theorem branches_foldl_require (conditions : List Condition) :
    (conditions.foldl require empty).branches =
      if Condition.allFragments conditions = [] then none
      else some (Condition.allFragments conditions) := by
  rw [foldl_pieces branches branches_require, ← Condition.allFragments]
  induction Condition.allFragments conditions using List.reverseRecOn with
  | nil => rfl
  | append_singleton fragments last ih =>
    rw [List.foldl_append, ih]
    cases fragments <;> simp [branch]

/-- The entries that express predicates on fields. -/
def expressed (fields : List (String × Predicate)) : Document :=
  fields.map fun (field, predicate) => (field, predicate.toValue)

/-- The entry that asks for one of the branches, if there are any. -/
def choice (branches : List Document) : Document :=
  if branches = [] then [] else [("$or", .array (branches.map .document))]

theorem keys_expressed (fields : List (String × Predicate)) :
    (expressed fields).keys = fields.map Prod.fst := by
  simp [expressed, Document.keys, Function.comp_def]

/-- The entries of the fields come first, and then the branches. -/
theorem compile_eq_merge (predicates : Predicates) :
    predicates.compile =
      predicates.branches.elim
        (Document.merge [] (expressed predicates.fields)) fun branches =>
          (Document.merge [] (expressed predicates.fields)).insert "$or"
            (.array (branches.map .document)) := by
  rw [compile, Document.merge, expressed, List.foldl_map]
  cases predicates.branches <;> rfl

theorem distinct_compile (predicates : Predicates) :
    predicates.compile.Distinct := by
  rw [compile_eq_merge, Document.merge_nil]
  cases predicates.branches with
  | none => exact Document.distinct_lastGiven _
  | some => exact Document.distinct_insert (Document.distinct_lastGiven _) _ _

/-- Where no field takes the place of the branches, the filter has every
predicate as it is, and the branches behind them. -/
theorem compile_eq {predicates : Predicates} {branches : List Document}
    (given : predicates.branches =
      if branches = [] then none else some branches)
    (distinct : (predicates.fields.map Prod.fst).Nodup)
    (free : "$or" ∉ predicates.fields.map Prod.fst) :
    predicates.compile =
      expressed predicates.fields ++ choice branches := by
  rw [← keys_expressed] at distinct free
  rw [compile_eq_merge, given, choice, Document.merge_nil_of_distinct distinct]
  by_cases without : branches = []
  · simp [without]
  · simp only [without, if_false, Option.elim_some,
      Document.insert_of_not_mem free]

/-- The filter of conditions that leave the name of the branches alone. -/
theorem compile_foldl_require {conditions : List Condition}
    (free : "$or" ∉ keysOf (Condition.asserted conditions)) :
    (conditions.foldl require empty).compile =
      expressed (grouped (fun _ => Assertion.settled)
        (Condition.asserted conditions)) ++
      choice (Condition.allFragments conditions) := by
  have names : (conditions.foldl require empty).fields.map Prod.fst =
      keysOf (Condition.asserted conditions) := by
    rw [fields_foldl_require, map_fst_grouped]
  rw [compile_eq (branches_foldl_require conditions)
    (by rw [names]; exact nodup_keysOf _) (by rw [names]; exact free),
    fields_foldl_require]

theorem ne_nil_of_mem_fields {conditions : List Condition}
    {entry : String × Predicate}
    (member : entry ∈ (conditions.foldl require empty).fields) :
    entry.2 ≠ .operators [] := by
  rw [fields_foldl_require] at member
  rcases List.mem_map.mp member with ⟨field, known, rfl⟩
  exact Assertion.settled_ne_nil fun nothing =>
    about_eq_nil_iff.mp nothing known

end Predicates

namespace Envelope

/-- The filter of a query has one entry for every field of which a condition
asserts something, in the order of the first assertions, and the entry is what
the assertions about that field come to; all branches stand in one entry
behind these.  No field is left with an empty set of operators. -/
theorem filter_followAll (directives : List Directive)
    (free : ∀ assertion ∈ Condition.asserted (Directive.conditions directives),
      assertion.1 ≠ "$or") :
    (empty.followAll directives).compile.filter =
        Predicates.expressed (grouped (fun _ => Assertion.settled)
          (Condition.asserted (Directive.conditions directives))) ++
        Predicates.choice
          (Condition.allFragments (Directive.conditions directives)) ∧
      (empty.followAll directives).compile.filter.Distinct ∧
      ∀ entry ∈ (empty.followAll directives).predicates.fields,
        entry.2 ≠ .operators [] := by
  have predicates : (empty.followAll directives).predicates =
      (Directive.conditions directives).foldl Predicates.require .empty :=
    predicates_followAll empty directives
  have absent : "$or" ∉
      keysOf (Condition.asserted (Directive.conditions directives)) := by
    simpa [keysOf] using fun assertion member => free _ member rfl
  refine ⟨?_, Predicates.distinct_compile _, ?_⟩
  · exact (congrArg Predicates.compile predicates).trans
      (Predicates.compile_foldl_require absent)
  · rw [predicates]
    exact fun entry member => Predicates.ne_nil_of_mem_fields member

/-- Conditions on several fields in turn, with a bound between them. -/
def mixedConditions : List Directive :=
  [.condition (.equal "a" (.ofInt 1)), .condition (.greater "b" (.ofInt 2)),
    .limit (.ofInt 3), .condition (.someEqual [("c", .null), ("d", .null)]),
    .condition (.different "a" (.ofInt 5)),
    .condition (.between "b" (.ofInt 4) (.ofInt 7)),
    .condition (.like " e " "x" {}), .condition (.greater "b" (.ofInt 3))]

theorem filter_followAll_mixedConditions :
    (∀ assertion ∈ Condition.asserted (Directive.conditions mixedConditions),
      assertion.1 ≠ "$or") ∧
    (empty.followAll mixedConditions).compile.filter =
      [("a", .document [("$ne", .ofInt 5)]),
        ("b", .document
          [("$gt", .ofInt 3), ("$gte", .ofInt 4), ("$lte", .ofInt 7)]),
        ("e", .document [("$regex", .string "x"), ("$options", .string "i")]),
        ("$or", .array [.document [("c", .null)], .document [("d", .null)]])] :=
  have free : ∀ assertion ∈
      Condition.asserted (Directive.conditions mixedConditions),
      assertion.1 ≠ "$or" := by decide
  ⟨free, (filter_followAll mixedConditions free).1⟩

end Envelope

end DocQuery
