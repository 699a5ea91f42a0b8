import DocQuery.Proofs.Filter.Membership
import DocQuery.Proofs.Value.Kind
import DocQuery.Proofs.Value.Order
import DocQuery.Sorting

/-!
# Ranges

A range operator asks whether a value, or an item of an array, stands in one
of some orders to its operand.  For an operand of a kind that these operators
compare, equality is one of the orders, so the operators that admit equality
ask for nothing else than the strict ones and equality do together, and of a
single value of that kind exactly one of below, equal and above holds.

What a sort puts before something else of its kind lies below it for the range
operators too, unless the two are timestamps or byte strings; those meet no
range at all.
-/

namespace DocQuery

namespace Filter

variable {value : Option Value} {operand : Value}

/-! ## Standing in one of some orders -/

/-- To stand in one of two orders, or sets of orders, is to stand in the one or
in the other. -/
theorem stands_or (first second : Ordering → Bool) (value : Option Value)
    (operand : Value) :
    stands (fun order => first order || second order) value operand =
      (stands first value operand || stands second value operand) := by
  have either (outcome : Option Ordering) :
      (outcome.any fun order => first order || second order) =
        (outcome.any first || outcome.any second) := by
    cases outcome <;> rfl
  unfold stands
  split
  · rfl
  · rw [Bool.eq_iff_iff]
    simp only [either, Bool.or_eq_true, List.any_eq_true, and_or_left,
      exists_or]
  · exact either _

/-- To agree with an operand of an orderable kind, or to hold an item that
does, is to stand in the order of equals to it. -/
theorem agrees_eq_stands (orderable : operand.kind.isOrderable = true) :
    agrees value operand = stands (· == .eq) value operand := by
  have single (found : Value) :
      found.agrees operand =
        (found.compareAlike? operand).any (· == .eq) := by
    rw [Value.agrees_eq_compareAlike? orderable]
    cases found.compareAlike? operand <;> rfl
  rcases value with _ | found
  · cases operand <;> first | rfl | cases orderable
  · cases found with
    | array items =>
      have apart : (Value.array items).compareAlike? operand = none := by
        cases operand <;> rfl
      simp only [agrees, Value.agreesOrContains, single, apart, stands,
        Option.any_none, Bool.false_or]
    | _ => simp only [agrees, Value.agreesOrContains, single, stands,
        Bool.or_false]

/-- A single value of an orderable kind stands in the order that the sort finds
between it and the operand. -/
theorem stands_of_kind_eq (orderable : operand.kind.isOrderable = true)
    {found : Value} (same : found.kind = operand.kind)
    (admitted : Ordering → Bool) :
    stands admitted (some found) operand =
      admitted (found.compare operand) := by
  have compared := Value.compareAlike?_of_kind_eq orderable same
  cases found with
  | array =>
    rw [← same] at orderable
    cases orderable
  | _ => simp only [stands, compared, Option.any_some]

/-- Nothing stands in an order to an operand of any other kind. -/
theorem stands_of_not_isOrderable (other : operand.kind.isOrderable = false)
    (admitted : Ordering → Bool) (value : Option Value) :
    stands admitted value operand = false := by
  have apart (found : Value) : found.compareAlike? operand = none :=
    Value.compareAlike?_of_not_isOrderable other
  unfold stands
  split
  · rfl
  · simp [apart]
  · simp [apart]

/-! ## Operators that ask for an order -/

/-- An operator asks whether a value stands in one of the admitted orders. -/
structure Admits (operator : String) (admitted : Ordering → Bool) : Prop where
  named : isOperatorName operator = true
  answered (value : Option Value) (all : Document) (operand : Value) :
    meetsOperator value all operator operand =
      .ok (stands admitted value operand)

theorem admits_gt : Admits "$gt" (· == .gt) := ⟨by decide, fun _ _ _ => rfl⟩

theorem admits_gte : Admits "$gte" (· != .lt) := ⟨by decide, fun _ _ _ => rfl⟩

theorem admits_lt : Admits "$lt" (· == .lt) := ⟨by decide, fun _ _ _ => rfl⟩

theorem admits_lte : Admits "$lte" (· != .gt) := ⟨by decide, fun _ _ _ => rfl⟩

variable {document : Document} {path operator : String}
  {admitted : Ordering → Bool}

theorem Admits.congr (admits : Admits operator admitted)
    {other : Ordering → Bool} (same : ∀ order, admitted order = other order) :
    Admits operator other :=
  funext same ▸ admits

theorem meets_asking_of_admits (field : isOperatorName path = false)
    (admits : Admits operator admitted) :
    document.meets (asking path operator operand) =
      .ok (stands admitted (document.getPath? path) operand) := by
  rw [meets_asking field admits.named, admits.answered]

/-- A single value of the operand's kind meets an operator if the range
operators know the kind and the order of the two is admitted. -/
theorem meets_asking_of_kind_eq (field : isOperatorName path = false)
    (admits : Admits operator admitted) {found : Value}
    (foundAt : document.getPath? path = some found)
    (same : found.kind = operand.kind) :
    document.meets (asking path operator operand) =
      .ok (operand.kind.isOrderable && admitted (found.compare operand)) := by
  rw [meets_asking_of_admits field admits, foundAt]
  cases orderable : operand.kind.isOrderable with
  | true => rw [stands_of_kind_eq orderable same, Bool.true_and]
  | false => rw [stands_of_not_isOrderable orderable, Bool.false_and]

/-- The operator that asks for one order alone. -/
def operatorOf : Ordering → String
  | .lt => "$lt"
  | .eq => "$eq"
  | .gt => "$gt"

theorem isOperatorName_operatorOf (asked : Ordering) :
    isOperatorName (operatorOf asked) = true := by
  cases asked <;> decide

/-- For an operand of an orderable kind equality asks for an order as well. -/
theorem meetsOperator_operatorOf (orderable : operand.kind.isOrderable = true)
    (value : Option Value) (all : Document) (asked : Ordering) :
    meetsOperator value all (operatorOf asked) operand =
      .ok (stands (· == asked) value operand) := by
  cases asked with
  | lt => exact admits_lt.answered value all operand
  | eq => exact congrArg Except.ok (agrees_eq_stands orderable)
  | gt => exact admits_gt.answered value all operand

theorem meetsOperators_singleton (value : Option Value) (operator : String)
    (operand : Value) :
    meetsOperators value [(operator, operand)] =
      meetsOperator value [(operator, operand)] operator operand := by
  simp only [meetsOperators, meetsEach]
  rcases meetsOperator value [(operator, operand)] operator operand with
    failure | _ | _ <;> rfl

/-- Of the operators that ask for one order alone, one and no other is met
when an order decides which. -/
theorem existsUnique_operator {met : String → Prop} (order : Ordering)
    (told : ∀ asked, met (operatorOf asked) ↔ asked = order) :
    ∃! operator, operator ∈ ["$lt", "$eq", "$gt"] ∧ met operator := by
  refine ⟨operatorOf order, ⟨?_, (told order).mpr rfl⟩, ?_⟩
  · cases order <;> simp [operatorOf]
  · rintro operator ⟨member, holds⟩
    have named : ∃ asked, operator = operatorOf asked := by
      simp only [List.mem_cons, List.not_mem_nil, or_false] at member
      rcases member with rfl | rfl | rfl
      · exact ⟨.lt, rfl⟩
      · exact ⟨.eq, rfl⟩
      · exact ⟨.gt, rfl⟩
    rcases named with ⟨asked, rfl⟩
    rw [(told asked).mp holds]

/-! ## Coherence with equality -/

/-- How the range operators and equality go together at a path of a document,
for one operand. -/
structure RangeLaws (document : Document) (path : String) (operand : Value) :
    Prop where
  /-- To be at least the operand is to be above it or equal to it. -/
  atLeast :
    document.meets (asking path "$gte" operand) = .ok true ↔
      document.meets (asking path "$gt" operand) = .ok true ∨
        document.meets (asking path "$eq" operand) = .ok true
  /-- To be at most the operand is to be below it or equal to it. -/
  atMost :
    document.meets (asking path "$lte" operand) = .ok true ↔
      document.meets (asking path "$lt" operand) = .ok true ∨
        document.meets (asking path "$eq" operand) = .ok true
  /-- A value of the operand's kind meets exactly one of three operators. -/
  oneOperator : ∀ found, document.getPath? path = some found →
    found.kind = operand.kind →
      ∃! operator, operator ∈ ["$lt", "$eq", "$gt"] ∧
        meetsOperators (some found) [(operator, operand)] = .ok true
  /-- A document with such a value matches exactly one of the filters that ask
  these operators of the field. -/
  oneFilter : ∀ found, document.getPath? path = some found →
    found.kind = operand.kind → isOperatorName path = false →
      ∃! operator, operator ∈ ["$lt", "$eq", "$gt"] ∧
        document.meets (asking path operator operand) = .ok true
  /-- The name of an operator is no field, and every filter on it is refused. -/
  refused : isOperatorName path = true → ∀ operator, ∃ failure,
    document.meets (asking path operator operand) = .error failure

/-- An operator that admits equality and a strict one differ by equality. -/
theorem meets_asking_or_eq (orderable : operand.kind.isOrderable = true)
    {strict weak : String} {order : Ordering}
    (strictly : Admits strict (· == order))
    (weakly : Admits weak fun found => found == order || found == .eq) :
    document.meets (asking path weak operand) = .ok true ↔
      document.meets (asking path strict operand) = .ok true ∨
        document.meets (asking path "$eq" operand) = .ok true := by
  cases unfit : isOperatorName path with
  | true =>
    have unmet (operator : String) :
        document.meets (asking path operator operand) ≠ .ok true := by
      rcases exists_failure_of_asking unfit operator operand with
        ⟨failure, failed⟩
      rw [failed]
      exact nofun
    simp only [unmet, or_self]
  | false =>
    rw [meets_asking_of_admits unfit weakly,
      meets_asking_of_admits unfit strictly, meets_asking_eq unfit,
      agrees_eq_stands orderable, stands_or]
    simp

/-- For every operand of a kind that the range operators compare they go
together with equality, whatever stands at a path. -/
theorem rangeLaws_of_isOrderable (orderable : operand.kind.isOrderable = true)
    (document : Document) (path : String) :
    RangeLaws document path operand := by
  have settled (found : Value) (same : found.kind = operand.kind)
      (asked : Ordering) :
      stands (· == asked) (some found) operand = true ↔
        asked = found.compare operand := by
    rw [stands_of_kind_eq orderable same, beq_iff_eq, eq_comm]
  constructor
  case atLeast =>
    refine meets_asking_or_eq orderable admits_gt (admits_gte.congr ?_)
    intro found
    cases found <;> rfl
  case atMost =>
    refine meets_asking_or_eq orderable admits_lt (admits_lte.congr ?_)
    intro found
    cases found <;> rfl
  case oneOperator =>
    intro found at_path same
    refine existsUnique_operator (found.compare operand) fun asked => ?_
    rw [meetsOperators_singleton, meetsOperator_operatorOf orderable,
      Except.ok.injEq, settled found same]
  case oneFilter =>
    intro found at_path same field
    refine existsUnique_operator (found.compare operand) fun asked => ?_
    rw [meets_asking field (isOperatorName_operatorOf asked),
      meetsOperator_operatorOf orderable, at_path, Except.ok.injEq,
      settled found same]
  case refused =>
    intro unfit operator
    exact exists_failure_of_asking unfit operator operand

/-- An array that holds an equal number is at least that number, whatever else
it holds, and one number of two kinds is equal to itself alone. -/
theorem rangeLaws_of_isOrderable_mixed :
    let document : Document :=
      [("a", .array [.string "x", .array [.ofInt 7], .double (.ofInt 5)]),
        ("n", .int64 3)]
    document.meets (asking "a" "$gte" (.ofInt 5)) = .ok true ∧
      ∃! operator, operator ∈ ["$lt", "$eq", "$gt"] ∧
        document.meets (asking "n" operator (.double (.ofInt 3))) =
          .ok true := by
  intro document
  have array : RangeLaws document "a" (.ofInt 5) :=
    rangeLaws_of_isOrderable (by decide) document "a"
  have single : RangeLaws document "n" (.double (.ofInt 3)) :=
    rangeLaws_of_isOrderable (by decide) document "n"
  have equal : document.meets (asking "a" "$eq" (.ofInt 5)) = .ok true := by
    decide +kernel
  exact ⟨array.atLeast.mpr (Or.inr equal),
    single.oneFilter (.int64 3) rfl rfl (by decide)⟩

/-! ## Agreement with the sort order -/

/-- What a sort puts before something else of its kind lies below it for the
range operators, and the other one above it, except that timestamps and byte
strings, which the sort compares among their kinds as well, meet none of these
operators. -/
theorem ranges_of_compare_eq_lt {first second : Value}
    (same : first.kind = second.kind) (less : first.compare second = .lt)
    {path : String} (field : isOperatorName path = false)
    {lower upper : Document} (firstAt : lower.getPath? path = some first)
    (secondAt : upper.getPath? path = some second) :
    lower.compareBy upper [(path, .ofInt 1)] = .lt ∧
      (∀ operator ∈ ["$lt", "$lte"],
        lower.meets (asking path operator second) =
          .ok !second.kind.isOrderedBySortOnly) ∧
      ∀ operator ∈ ["$gt", "$gte"],
        upper.meets (asking path operator first) =
          .ok !first.kind.isOrderedBySortOnly := by
  have known := Value.isOrderable_of_compare_eq_lt same less
  have greater : second.compare first = .gt := by
    rw [Value.compare_swap, less]
    rfl
  refine ⟨?_, ?_, ?_⟩
  · have upward : Value.isBelowZero (.ofInt 1) = false := by decide +kernel
    simp [Document.compareBy, Sorting.compareBy, Sorting.maxFields,
      Sorting.compareFields, firstAt, secondAt, less, upward]
  · intro operator member
    rcases List.mem_pair.mp member with rfl | rfl
    · rw [meets_asking_of_kind_eq field admits_lt firstAt same, less, known]
      simp
    · rw [meets_asking_of_kind_eq field admits_lte firstAt same, less, known]
      simp
  · intro operator member
    rcases List.mem_pair.mp member with rfl | rfl
    · rw [meets_asking_of_kind_eq field admits_gt secondAt same.symm, greater,
        same, known]
      simp
    · rw [meets_asking_of_kind_eq field admits_gte secondAt same.symm, greater,
        same, known]
      simp

/-- Of two timestamps a sort puts one first and no range operator finds it below
the other one; of two strings the operators do. -/
theorem ranges_of_compare_eq_lt_timestamps :
    Document.compareBy [("f", .timestamp 5 2)] [("f", .timestamp 5 9)]
        [("f", .ofInt 1)] = .lt ∧
      Document.meets [("f", .timestamp 5 2)]
        (asking "f" "$lt" (.timestamp 5 9)) = .ok false ∧
      Document.meets [("f", .string "a")]
        (asking "f" "$lt" (.string "b")) = .ok true := by
  have field : isOperatorName "f" = false := by decide
  have found (value : Value) :
      Document.getPath? [("f", value)] "f" = some value := rfl
  have earlier : (Value.timestamp 5 2).compare (.timestamp 5 9) = .lt := by
    decide
  have smaller : (Value.string "a").compare (.string "b") = .lt := by decide
  have stamps := ranges_of_compare_eq_lt (by rfl) earlier field (found _)
    (found _)
  have texts := ranges_of_compare_eq_lt (by rfl) smaller field (found _)
    (found _)
  exact ⟨stamps.1, stamps.2.1 "$lt" (by simp), texts.2.1 "$lt" (by simp)⟩

end Filter

end DocQuery
