import DocQuery.Proofs.Document.Path
import DocQuery.Proofs.Update.Amount
import DocQuery.Proofs.Update.Failure
import Mathlib.Algebra.Ring.Int.Defs

/-!
# Accumulating at a path

Pushing appends to the array at a path, incrementing adds to the number there.
Both look at the path before they write, and reading follows fewer paths than
writing does: a path that is empty, too long or too deep is written at, but
what stands there is not seen.  Operands that come one after the other gather
at a readable path; at any other each of them starts afresh and takes the
place of the one before.
-/

namespace DocQuery

namespace Update

/-! ## Updates of one path -/

/-- The update of one path by one operator. -/
def single (operator : UpdateOperator) (path : String) (operand : Value) :
    Document :=
  [(operator.name, .document [(path, operand)])]

/-- Carry out updates one after the other. -/
def applyAll (updates : List Document) (document : Document) :
    Except StoreError Document :=
  updates.foldlM
    (fun reached update => (apply reached update).map Outcome.document)
    document

variable {operator : UpdateOperator} {path : String}
  {change : Document → String → Value → Except StoreError Document}

theorem apply_single (known : operator.change? = some change)
    (document : Document) (operand : Value) :
    (apply document (single operator path operand)).map Outcome.document =
      change document path operand := by
  have named : isOperatorName operator.name = true := by
    cases operator <;> decide
  have run : result document (single operator path operand) =
      change document path operand := by
    simp only [result, single, hasOperators, List.any_cons, List.any_nil, named,
      Bool.or_false, if_true, List.filter_cons, List.filter_nil,
      List.foldlM_cons, List.foldlM_nil,
      UpdateOperator.applyOperator_document known, forEach_cons]
    cases change document path operand <;> rfl
  rw [apply, run]
  cases change document path operand <;> rfl

theorem applyAll_single (known : operator.change? = some change)
    (operands : List Value) (document : Document) :
    applyAll (operands.map (single operator path)) document =
      operands.foldlM (fun reached operand => change reached path operand)
        document := by
  simp only [applyAll, List.foldlM_map, apply_single known]

/-! ## The value at the path -/

/-- A change writes at a path what `next` makes of the value that reading finds
there. -/
def Accumulates (path : String)
    (change : Document → String → Value → Except StoreError Document)
    (next : Option Value → Value → Except StoreError Value) : Prop :=
  ∀ document operand,
    change document path operand =
      (next (document.getPath? path) operand).map (document.setPath path)

/-- The array behind a push. -/
def pushed (path : String) (current : Option Value) (operand : Value) :
    Except StoreError Value :=
  match current with
  | none => .ok (.array (itemsOf operand))
  | some (.array items) => .ok (.array (items ++ itemsOf operand))
  | some _ => .error (.invalidOperation (.fieldNotArray path))

theorem accumulates_push (path : String) :
    Accumulates path pushField (pushed path) := by
  intro document operand
  rw [pushField, arrayAt]
  cases document.getPath? path with
  | none => rfl
  | some value => cases value <;> rfl

theorem accumulates_increment (path : String) :
    Accumulates path incrementField
      (fun current increment => add current increment path) := by
  intro document operand
  simp only [incrementField]
  cases add (document.getPath? path) operand path <;> rfl

/-- The value that operands make one after the other of another one. -/
def gather (next : Option Value → Value → Except StoreError Value)
    (operands : List Value) (held : Option Value) :
    Except StoreError (Option Value) :=
  operands.foldlM (fun current operand => (next current operand).map some) held

/-- The operands that are seen at a path afterwards: all of them if the path is
readable, else the last one. -/
def surviving {Operand : Type} (path : String) (operands : List Operand) :
    List Operand :=
  if isReadablePath path then operands
  else operands.drop (operands.length - 1)

theorem surviving_map {Operand Other : Type} (path : String)
    (function : Operand → Other) (operands : List Operand) :
    surviving path (operands.map function) =
      (surviving path operands).map function := by
  unfold surviving
  split
  · rfl
  · rw [List.length_map, List.map_drop]

theorem surviving_ne_nil {Operand : Type} {operands : List Operand}
    (given : operands ≠ []) (path : String) : surviving path operands ≠ [] := by
  have positive := List.length_pos_iff.mpr given
  unfold surviving
  split
  · exact given
  · exact List.ne_nil_of_length_pos (by rw [List.length_drop]; omega)

theorem length_surviving_le {Operand : Type} (path : String)
    (operands : List Operand) :
    (surviving path operands).length ≤ operands.length := by
  unfold surviving
  split
  · exact Nat.le_refl _
  · rw [List.length_drop]
    omega

theorem surviving_subset {Operand : Type} (path : String)
    (operands : List Operand) : surviving path operands ⊆ operands := by
  unfold surviving
  split
  · exact List.Subset.refl _
  · exact List.drop_subset _ _

/-- Nothing is lost exactly if the path is readable or there is one operand. -/
theorem surviving_eq_self_iff {Operand : Type} {operands : List Operand}
    (given : operands ≠ []) (path : String) :
    surviving path operands = operands ↔
      isReadablePath path = true ∨ operands.length = 1 := by
  have positive := List.length_pos_iff.mpr given
  unfold surviving
  split
  · next readable => simp [readable]
  · next unreadable =>
    constructor
    · intro same
      have shorter := congrArg List.length same
      rw [List.length_drop] at shorter
      exact Or.inr (by omega)
    · rintro (readable | one)
      · exact absurd readable unreadable
      · rw [one]
        rfl

variable {next : Option Value → Value → Except StoreError Value}

/-- One step of a run, seen at the path. -/
theorem map_follow?_change (accumulates : Accumulates path change next)
    (document : Document) (operand : Value) :
    (change document path operand).map (Document.follow? (pathNames path)) =
      (next (document.getPath? path) operand).map some := by
  rw [accumulates]
  cases next (document.getPath? path) operand with
  | error failure => rfl
  | ok value =>
    simp [Except.map, Document.setPath, pathNames_ne_nil]

/-- A run over documents is a run over the values at the path, as long as
reading finds them. -/
theorem map_follow?_run_of_readable (accumulates : Accumulates path change next)
    (readable : isReadablePath path = true) (operands : List Value)
    (document : Document) :
    (operands.foldlM (fun reached operand => change reached path operand)
        document).map (Document.follow? (pathNames path)) =
      gather next operands (document.follow? (pathNames path)) := by
  induction operands generalizing document with
  | nil => rfl
  | cons operand rest ih =>
    have step := map_follow?_change accumulates document operand
    rw [Document.getPath?, if_pos readable] at step
    simp only [gather, List.foldlM_cons, ← step]
    cases change document path operand with
    | error failure => rfl
    | ok reached => exact ih reached

/-- Where reading finds nothing every operand starts afresh, so a run ends with
what the last one makes of nothing. -/
theorem map_follow?_run_of_unreadable
    (accumulates : Accumulates path change next)
    (unreadable : isReadablePath path = false) {before : List Value}
    (starts : ∀ operand ∈ before, ∃ value, next none operand = .ok value)
    (last : Value) (document : Document) :
    ((before ++ [last]).foldlM
        (fun reached operand => change reached path operand) document).map
          (Document.follow? (pathNames path)) =
      gather next [last] none := by
  have step : ∀ reached operand,
      (change reached path operand).map (Document.follow? (pathNames path)) =
        (next none operand).map some := by
    intro reached operand
    rw [map_follow?_change accumulates, Document.getPath?, unreadable]
    rfl
  induction before generalizing document with
  | nil =>
    simp only [gather, List.nil_append, List.foldlM_cons, ← step document]
    cases change document path last <;> rfl
  | cons operand rest ih =>
    rcases starts operand List.mem_cons_self with ⟨value, started⟩
    have written := step document operand
    rw [started, Except.map, map_eq_ok_iff] at written
    rcases written with ⟨reached, changed, -⟩
    rw [List.cons_append, List.foldlM_cons, changed]
    exact ih (fun later member => starts later (List.mem_cons_of_mem _ member))
      reached

/-- Where nothing stands at a path, a run leaves there what the surviving
operands gather to. -/
theorem map_follow?_run (accumulates : Accumulates path change next)
    {operands : List Value} (given : operands ≠ [])
    (starts : ∀ operand ∈ operands, ∃ value, next none operand = .ok value)
    {document : Document}
    (missing : document.follow? (pathNames path) = none) :
    (operands.foldlM (fun reached operand => change reached path operand)
        document).map (Document.follow? (pathNames path)) =
      gather next (surviving path operands) none := by
  cases readable : isReadablePath path with
  | true =>
    rw [map_follow?_run_of_readable accumulates readable, missing, surviving,
      if_pos readable]
  | false =>
    rcases List.eq_nil_or_concat operands with rfl | ⟨before, last, rfl⟩
    · exact absurd rfl given
    · rw [List.concat_eq_append] at starts ⊢
      have remaining : surviving path (before ++ [last]) = [last] := by
        simp [surviving, readable]
      rw [remaining]
      exact map_follow?_run_of_unreadable accumulates readable
        (fun operand member => starts operand (List.mem_append_left _ member))
        last document

/-! ## Pushing -/

/-- No document among some values has items to spread. -/
def NoneSpreads (values : List Value) : Prop :=
  ∀ entries : Document,
    .document entries ∈ values → entries.get? "$each" = none

theorem itemsOf_of_noneSpreads {values : List Value}
    (noneSpreads : NoneSpreads values) {value : Value}
    (member : value ∈ values) : itemsOf value = [value] := by
  cases value with
  | document entries => simp [itemsOf, noneSpreads entries member]
  | _ => rfl

theorem gather_pushed (path : String) {values : List Value}
    (noneSpreads : NoneSpreads values) (items : List Value) :
    gather (pushed path) values (some (.array items)) =
      .ok (some (.array (items ++ values))) := by
  induction values generalizing items with
  | nil => simp [gather, pure, Except.pure]
  | cons value rest ih =>
    have appended : pushed path (some (.array items)) value =
        .ok (.array (items ++ [value])) := by
      rw [pushed, itemsOf_of_noneSpreads noneSpreads List.mem_cons_self]
    rw [gather, List.foldlM_cons, appended]
    refine (ih (fun entries member => noneSpreads entries
      (List.mem_cons_of_mem _ member)) _).trans ?_
    rw [List.append_assoc, List.singleton_append]

/-- The first value finds nothing, the others find an array. -/
theorem gather_pushed_none (path : String) {values : List Value}
    (given : values ≠ []) (noneSpreads : NoneSpreads values) :
    gather (pushed path) values none = .ok (some (.array values)) := by
  cases values with
  | nil => exact absurd rfl given
  | cons value rest =>
    have started : pushed path none value = .ok (.array [value]) := by
      rw [pushed, itemsOf_of_noneSpreads noneSpreads List.mem_cons_self]
    rw [gather, List.foldlM_cons, started]
    exact gather_pushed path (fun entries member => noneSpreads entries
      (List.mem_cons_of_mem _ member)) [value]

/-! ## Incrementing -/

/-- The number that increments come to, one after the other. -/
def heldSum (amounts : List Int32) (start : Int) : Int :=
  amounts.foldl (fun sum amount => saturated (sum + amount.toInt)) start

/-- Nothing is cut off where no sum on the way can leave the range. -/
theorem heldSum_eq_sum {amounts : List Int32} {start : Int}
    (least : -0x8000000000000000 ≤ start - 0x80000000 * amounts.length)
    (greatest : start + 0x80000000 * amounts.length ≤ 0x8000000000000000) :
    heldSum amounts start = start + (amounts.map Int32.toInt).sum := by
  induction amounts generalizing start with
  | nil => simp [heldSum]
  | cons amount rest ih =>
    have below := amount.le_toInt
    have above := amount.toInt_lt
    rw [List.length_cons] at least greatest
    have exact_step : saturated (start + amount.toInt) =
        start + amount.toInt := by
      apply saturated_of_inRange
      · omega
      · omega
    have others : heldSum rest (start + amount.toInt) =
        start + amount.toInt + (rest.map Int32.toInt).sum :=
      ih (by omega) (by omega)
    rw [heldSum, List.foldl_cons, exact_step, List.map_cons, List.sum_cons,
      ← Int.add_assoc, ← others]
    rfl

/-- An increment of an integer gives the integer held in range. -/
theorem add_integer {value : Value} {number : Int}
    (integer : value.integer? = some number) (amount : Int32)
    (field : String) :
    ∃ sum, add (some value) (.int32 amount) field = .ok sum ∧
      sum.integer? = some (saturated (number + amount.toInt)) := by
  rcases Amount.exists_of_integer? integer with ⟨held, rfl, rfl⟩
  refine ⟨_, Amount.add_toValue held (.int32 amount) field, ?_⟩
  rw [Amount.integer?_toValue, Amount.toInt_plus]
  rfl

/-- Increments carry an integer along. -/
theorem gather_add (field : String) (amounts : List Int32) {value : Value}
    {number : Int} (integer : value.integer? = some number) :
    ∃ sum, gather (fun current increment => add current increment field)
        (amounts.map .int32) (some value) = .ok (some sum) ∧
      sum.integer? = some (heldSum amounts number) := by
  induction amounts generalizing value number with
  | nil => exact ⟨value, rfl, integer⟩
  | cons amount rest ih =>
    rcases add_integer integer amount field with ⟨middle, added, middleInteger⟩
    rcases ih middleInteger with ⟨sum, gathered, sumInteger⟩
    refine ⟨sum, ?_, sumInteger⟩
    rw [gather, List.map_cons, List.foldlM_cons, added]
    exact gathered

/-- A missing number counts as zero. -/
theorem gather_add_none (field : String) {amounts : List Int32}
    (given : amounts ≠ []) :
    ∃ sum, gather (fun current increment => add current increment field)
        (amounts.map .int32) none = .ok (some sum) ∧
      sum.integer? = some (heldSum amounts 0) := by
  rcases List.exists_cons_of_ne_nil given with ⟨amount, rest, rfl⟩
  exact gather_add field (amount :: rest)
    (show (Value.int32 0).integer? = some 0 from rfl)

/-! ## Runs at a path where nothing stands -/

theorem exists_run (known : operator.change? = some change)
    (accumulates : Accumulates path change next)
    {operands : List Value} (given : operands ≠ [])
    (starts : ∀ operand ∈ operands, ∃ value, next none operand = .ok value)
    {document : Document}
    (missing : document.follow? (pathNames path) = none) {value : Value}
    (gathered : gather next (surviving path operands) none = .ok (some value)) :
    ∃ result,
      applyAll (operands.map (single operator path)) document = .ok result ∧
        result.follow? (pathNames path) = some value := by
  rw [← map_follow?_run accumulates given starts missing, map_eq_ok_iff]
    at gathered
  rw [applyAll_single known]
  exact gathered

/-- Values pushed one after the other, and amounts added one after the other,
at a path where nothing stands.  Every step succeeds.  The path then holds the
array of the surviving values, which is the array of all exactly if the path is
readable or only one value was pushed; and it holds the sum of the surviving
amounts, held at the ends of 64 bits, which for up to `2 ^ 32` amounts is the
exact sum. -/
theorem accumulated_of_missing {document : Document} {path : String}
    (missing : document.follow? (pathNames path) = none) :
    (∀ values : List Value, values ≠ [] → NoneSpreads values →
      ∃ result,
        applyAll (values.map (single .push path)) document = .ok result ∧
        result.follow? (pathNames path) =
          some (.array (surviving path values)) ∧
        (result.follow? (pathNames path) = some (.array values) ↔
          isReadablePath path = true ∨ values.length = 1)) ∧
    (∀ amounts : List Int32, amounts ≠ [] →
      ∃ result sum,
        applyAll ((amounts.map .int32).map (single .inc path)) document =
          .ok result ∧
        result.follow? (pathNames path) = some sum ∧
        sum.integer? = some (heldSum (surviving path amounts) 0) ∧
        (amounts.length ≤ 0x100000000 →
          sum.integer? =
            some ((surviving path amounts).map Int32.toInt).sum)) := by
  constructor
  · intro values given noneSpreads
    have starts : ∀ value ∈ values,
        ∃ first, pushed path none value = .ok first :=
      fun _ _ => ⟨_, rfl⟩
    have remaining : NoneSpreads (surviving path values) :=
      fun entries member => noneSpreads entries (surviving_subset _ _ member)
    have known : UpdateOperator.push.change? = some pushField := rfl
    rcases exists_run known (accumulates_push path) given starts missing
        (gather_pushed_none path (surviving_ne_nil given path) remaining) with
      ⟨result, run, found⟩
    refine ⟨result, run, found, ?_⟩
    rw [found, ← surviving_eq_self_iff given, Option.some.injEq,
      Value.array.injEq]
  · intro amounts given
    have starts : ∀ operand ∈ amounts.map Value.int32,
        ∃ first, add none operand path = .ok first := by
      intro operand member
      rcases List.mem_map.mp member with ⟨amount, -, rfl⟩
      exact ⟨_, rfl⟩
    rcases gather_add_none path (surviving_ne_nil given path) with
      ⟨sum, gathered, integer⟩
    rw [← surviving_map] at gathered
    have known : UpdateOperator.inc.change? = some incrementField := rfl
    rcases exists_run known (accumulates_increment path)
        (List.map_eq_nil_iff.not.mpr given) starts missing gathered with
      ⟨result, run, found⟩
    refine ⟨result, sum, run, found, integer, ?_⟩
    intro few
    have fewer : (surviving path amounts).length ≤ 0x100000000 :=
      (length_surviving_le path amounts).trans few
    rw [integer, heldSum_eq_sum (by omega) (by omega), Int.zero_add]

/-- A path of 33 names. -/
def deepPath : String := ".".intercalate (List.replicate 33 "a")

theorem accumulated_of_missing_deep :
    Document.follow? (pathNames deepPath) [] = none ∧
      ∃ result,
        applyAll ([.ofInt 1, .ofInt 2].map (single .push deepPath)) [] =
          .ok result ∧
        result.follow? (pathNames deepPath) = some (.array [.ofInt 2]) ∧
        result.follow? (pathNames deepPath) ≠
          some (.array [.ofInt 1, .ofInt 2]) := by
  have unreadable : isReadablePath deepPath = false := by decide +kernel
  have missing : Document.follow? (pathNames deepPath) [] = none :=
    Document.follow?_nil_document _
  have noneSpreads : NoneSpreads [.ofInt 1, .ofInt 2] := by
    intro entries member
    simp [Value.ofInt] at member
  rcases (accumulated_of_missing missing).1 [.ofInt 1, .ofInt 2] (by simp)
    noneSpreads with ⟨result, run, found, complete⟩
  refine ⟨missing, result, run, ?_, ?_⟩
  · rw [found, surviving, unreadable]
    rfl
  · rw [ne_eq, complete, unreadable]
    decide

end Update

end DocQuery
