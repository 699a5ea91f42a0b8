import DocQuery.Proofs.Clause.Directive
import DocQuery.Proofs.Document.Removal
import DocQuery.Proofs.Filter.Evaluation
import DocQuery.Proofs.Value.Depth

/-!
# Literals as tests of equality

A query that lets a field equal a value puts the value where a filter may
also have operators, and the evaluation tells the two apart by the form of the
value alone.  So the filter is a test of equality exactly for the values that
do not have the form of operators.  A document whose first name begins with a
dollar sign is carried out instead, and then it lets through what it does not
equal: two documents that nest deeper than all operands are the same to every
operator, and at most one of them can be the value itself.
-/

namespace DocQuery

namespace Filter

variable {path : String} {value : Value}

/-- On a document a filter is a test of equality with a value at a path: it is
evaluated, and met exactly if what stands there agrees with the value or is an
array with such an item, or if nothing stands there and the value is `null`. -/
def TestsEquality (filter : Document) (path : String) (value : Value)
    (document : Document) : Prop :=
  ∃ met, document.meets filter = .ok met ∧
    (met = true ↔
      (∃ found, document.getPath? path = some found ∧
        (found.agrees value = true ∨
          ∃ items, found = .array items ∧
            ∃ item ∈ items, item.agrees value = true)) ∨
      (document.getPath? path = none ∧ value = .null))

theorem agrees_none_iff : agrees none value = true ↔ value = .null := by
  cases value <;> simp [agrees]

theorem agreesOrContains_iff {found : Value} :
    found.agreesOrContains value = true ↔
      found.agrees value = true ∨
        ∃ items, found = .array items ∧
          ∃ item ∈ items, item.agrees value = true := by
  cases found <;> simp [Value.agreesOrContains]

/-- A filter that tells whether the value at a path agrees is a test of
equality. -/
theorem testsEquality_iff_of_evaluated {filter document : Document} {met : Bool}
    (evaluated : document.meets filter = .ok met) :
    TestsEquality filter path value document ↔
      met = agrees (document.getPath? path) value := by
  have equality : agrees (document.getPath? path) value = true ↔
      (∃ found, document.getPath? path = some found ∧
        (found.agrees value = true ∨
          ∃ items, found = .array items ∧
            ∃ item ∈ items, item.agrees value = true)) ∨
      (document.getPath? path = none ∧ value = .null) := by
    cases document.getPath? path with
    | none => simp [agrees_none_iff]
    | some found => simp [agrees, agreesOrContains_iff]
  rw [TestsEquality, evaluated, Bool.eq_iff_iff, equality]
  simp

/-! ## Operators under the name of a field -/

/-- Operators at a field are asked of the value at the field's path. -/
theorem meets_of_operators? {operators : Document}
    (field : isOperatorName path = false)
    (form : operators? value = some operators) (document : Document) :
    document.meets [(path, value)] =
      meetsOperators (document.getPath? path) operators := by
  rw [meets_singleton, matchesEntry_of_field document field, meetsCondition,
    form]

theorem eq_document_of_operators? {operators : Document}
    (form : operators? value = some operators) :
    value = .document operators := by
  unfold operators? at form
  split at form
  · split at form
    · rw [Option.some.inj form]
    · cases form
  · cases form

/-! ## Documents that nest deeper than an operand -/

/-- The range operators compare no documents. -/
theorem stands_document (order : Ordering → Bool) (entries : Document)
    (operand : Value) :
    stands order (some (.document entries)) operand = false := by
  simp [stands, Value.compareAlike?, Value.isNumber]

section

variable {entries : Document} {operand : Value}
  (deeper : operand.depth < (Value.document entries).depth)

include deeper

theorem agrees_of_depth_lt :
    agrees (some (.document entries)) operand = false :=
  Value.agreesOrContains_of_depth_lt deeper

/-- No member of a list operand is a document deeper than the list. -/
theorem agrees_of_listed {operator : String} {members : List Value}
    (members_listed : listed operator operand = .ok members)
    {member : Value} (inside : member ∈ members) :
    agrees (some (.document entries)) member = false := by
  cases operand with
  | array items =>
      rcases Except.ok.inj members_listed with rfl
      have shallower := Value.depth_lt_array inside
      exact Value.agreesOrContains_of_depth_lt
        (Nat.lt_trans shallower deeper)
  | _ => cases members_listed

theorem isAmong_of_listed {operator : String} {members : List Value}
    (members_listed : listed operator operand = .ok members) :
    isAmong (some (.document entries)) members = false := by
  rw [isAmong, List.any_eq_false]
  intro member inside
  simp [agrees_of_listed deeper members_listed (List.mem_of_mem_take inside)]

theorem hasAll_of_listed {operator : String} {members : List Value}
    (members_listed : listed operator operand = .ok members) :
    hasAll (some (.document entries)) members = false := by
  cases members with
  | nil => rfl
  | cons first rest =>
      have apart := agrees_of_listed deeper members_listed List.mem_cons_self
      simp [hasAll, maxListed, apart]

end

/-- Two documents that nest deeper than an operand are the same to every
operator. -/
theorem meetsOperator_of_depth_lt {first second : Document} {operand : Value}
    (firstDeeper : operand.depth < (Value.document first).depth)
    (secondDeeper : operand.depth < (Value.document second).depth)
    (all : Document) (operator : String) :
    meetsOperator (some (.document first)) all operator operand =
      meetsOperator (some (.document second)) all operator operand := by
  unfold meetsOperator
  split
  case h_1 | h_2 =>
    rw [agrees_of_depth_lt firstDeeper, agrees_of_depth_lt secondDeeper]
  case h_3 | h_4 | h_5 | h_6 => simp only [stands_document]
  case h_7 | h_8 =>
    cases members_listed : listed _ operand with
    | error failure => rfl
    | ok members =>
        simp only [bind, Except.bind,
          isAmong_of_listed firstDeeper members_listed,
          isAmong_of_listed secondDeeper members_listed]
  case h_9 =>
    cases members_listed : listed _ operand with
    | error failure => rfl
    | ok members =>
        simp only [bind, Except.bind,
          hasAll_of_listed firstDeeper members_listed,
          hasAll_of_listed secondDeeper members_listed]
  all_goals rfl

theorem meetsEach_of_depth_lt {first second operators : Document}
    (firstDeeper : ∀ entry ∈ operators,
      entry.2.depth < (Value.document first).depth)
    (secondDeeper : ∀ entry ∈ operators,
      entry.2.depth < (Value.document second).depth)
    (all : Document) :
    meetsEach (some (.document first)) all operators =
      meetsEach (some (.document second)) all operators := by
  rw [meetsEach_eq_untilSettled, meetsEach_eq_untilSettled]
  congr 1
  apply List.map_congr_left
  intro entry member
  exact meetsOperator_of_depth_lt (firstDeeper entry member)
    (secondDeeper entry member) all entry.1

/-- Operators do not tell the document that they form from one that holds
it. -/
theorem meetsOperators_wrapped (operators : Document) (name : String) :
    meetsOperators (some (.document operators)) operators =
      meetsOperators (some (.document [(name, .document operators)]))
        operators := by
  have held : (name, Value.document operators) ∈
      [(name, Value.document operators)] := List.mem_singleton_self _
  have inside := Value.depth_lt_document held
  refine meetsEach_of_depth_lt ?_ ?_ operators
  · intro entry member
    exact Value.depth_lt_document member
  · intro entry member
    exact Nat.lt_trans (Value.depth_lt_document member) inside

/-- Operators that agree with themselves as a value are no test of equality
with this value. -/
theorem exists_not_testsEquality {operators : Document}
    (field : isOperatorName path = false)
    (readable : isReadablePath path = true)
    (form : operators? value = some operators)
    (self : value.agrees value = true) :
    ∃ document : Document,
      (value.wellFormed = true → document.wellFormed = true) ∧
        ¬ TestsEquality [(path, value)] path value document := by
  obtain rfl := eq_document_of_operators? form
  -- One document holds the operators, the other one holds them one deeper.
  let placed (held : Value) : Document := Document.setPath [] path held
  let deeper : Document := [("", .document operators)]
  have reads (held : Value) : (placed held).getPath? path = some held :=
    Document.getPath?_setPath_self readable held []
  have asked (held : Value) :
      (placed held).meets [(path, .document operators)] =
        meetsOperators (some held) operators := by
    rw [meets_of_operators? field form, reads]
  have proper {held : Value} (heldProper : held.wellFormed = true) :
      (placed held).wellFormed = true :=
    Document.wellFormed_setPath Document.wellFormed_nil path heldProper
  by_cases here : TestsEquality [(path, .document operators)] path
      (.document operators) (placed (.document operators))
  · refine ⟨placed (.document deeper), ?_, ?_⟩
    · intro valueProper
      exact proper
        (Document.wellFormed_cons Document.wellFormed_nil valueProper rfl)
    · intro further
      rcases id here with ⟨met, evaluated, -⟩
      have alike : (placed (.document deeper)).meets
          [(path, .document operators)] = .ok met := by
        rw [asked, ← meetsOperators_wrapped, ← asked, evaluated]
      have equal : agrees (some (.document operators)) (.document operators) =
          true := by
        simp [agrees, Value.agreesOrContains, self]
      have inside : ("", Value.document operators) ∈ deeper :=
        List.mem_singleton_self _
      have apart : agrees (some (.document deeper)) (.document operators) =
          false :=
        agrees_of_depth_lt (Value.depth_lt_document inside)
      rw [testsEquality_iff_of_evaluated evaluated, reads, equal] at here
      rw [testsEquality_iff_of_evaluated alike, reads, apart, here] at further
      cases further
  · exact ⟨placed (.document operators), proper, here⟩

end Filter

namespace Envelope

open DocQuery.Filter

variable {directives : List Directive} {path : String} {value : Value}

/-- The only condition of a query is its filter. -/
theorem filter_of_only_equal
    (only : Directive.conditions directives = [.equal path value]) :
    (empty.followAll directives).compile.filter = [(path, value)] := by
  have predicates : (empty.followAll directives).predicates =
      (Directive.conditions directives).foldl Predicates.require .empty :=
    predicates_followAll empty directives
  rw [only] at predicates
  exact congrArg Predicates.compile predicates

/-- A query whose only condition lets a field equal a value tests equality with
this value on every document if the value does not have the form of operators.
If it does, the operators are asked of the field instead, and if it agrees with
itself and the path is readable, there is a document on which that is no test
of equality. -/
theorem testsEquality_of_only_equal
    (only : Directive.conditions directives = [.equal path value])
    (field : isOperatorName path = false) :
    let filter := (empty.followAll directives).compile.filter
    (operators? value = none →
        ∀ document, TestsEquality filter path value document) ∧
      ∀ operators, operators? value = some operators →
        (∀ document : Document, document.meets filter =
          meetsOperators (document.getPath? path) operators) ∧
        (isReadablePath path = true → value.agrees value = true →
          ∃ document : Document,
            (value.wellFormed = true → document.wellFormed = true) ∧
              ¬ TestsEquality filter path value document) := by
  intro filter
  have compiled : filter = [(path, value)] := filter_of_only_equal only
  rw [compiled]
  constructor
  · intro plain document
    have literal : isLiteral (path, value) = true := by
      simp [isLiteral, field, plain]
    have evaluated : document.meets [(path, value)] =
        .ok (agrees (document.getPath? path) value) :=
      (meets_singleton document path value).trans
        (matchesEntry_of_isLiteral literal document)
    exact (testsEquality_iff_of_evaluated evaluated).mpr rfl
  · intro operators form
    constructor
    · exact meets_of_operators? field form
    · intro readable self
      exact exists_not_testsEquality field readable form self

/-- A document with ordinary names is found in an array, and one that asks for
something greater lets through what it does not equal. -/
theorem testsEquality_of_only_equal_operators :
    let plain : Value := .document [("b", .int64 1), ("c", .null)]
    let greater : Value := .document [("$gt", .ofInt 1)]
    TestsEquality
        (empty.followAll
          [.limit (.ofInt 3), .condition (.equal "a" plain)]).compile.filter
        "a" plain [("a", .array [.ofInt 2, plain])] ∧
      Document.meets [("a", .ofInt 5)]
        (empty.followAll [.condition (.equal "a" greater)]).compile.filter =
          .ok true ∧
      ∃ document, ¬ TestsEquality
        (empty.followAll [.condition (.equal "a" greater)]).compile.filter
        "a" greater document := by
  intro plain greater
  have field : isOperatorName "a" = false := by decide
  have onlyPlain : Directive.conditions
      [.limit (.ofInt 3), .condition (.equal "a" plain)] =
        [.equal "a" plain] := rfl
  have onlyGreater : Directive.conditions
      [.condition (.equal "a" greater)] = [.equal "a" greater] := rfl
  obtain ⟨equality, -⟩ := testsEquality_of_only_equal onlyPlain field
  obtain ⟨-, operators⟩ := testsEquality_of_only_equal onlyGreater field
  obtain ⟨asked, fails⟩ := operators [("$gt", .ofInt 1)] rfl
  refine ⟨equality rfl _, (asked _).trans (by decide +kernel), ?_⟩
  rcases fails (by decide +kernel) (by decide +kernel) with
    ⟨document, -, unequal⟩
  exact ⟨document, unequal⟩

end Envelope

end DocQuery
