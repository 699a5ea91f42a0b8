import DocQuery.Proofs.Update.Accumulation

/-!
# Increments by integers

Integers that are added one after the other at a readable path, where an integer
stands or nothing.  No step fails.  As long as every sum on the way fits 64 bits
the number is the exact sum, so the order does not matter for it; a step that
would leave the range stops at its end.  The width is another matter: it only
ever grows, and stays narrow as long as nothing wide has been added and every
sum on the way fits 32 bits.
-/

namespace DocQuery

namespace Update

namespace Amount

/-! ## Sums on the way -/

/-- The start and all sums on the way meet a condition. -/
def EverySum (fits : Int → Prop) (start : Amount) (amounts : List Amount) :
    Prop :=
  ∀ first, first <+: amounts → fits (start.toInt + (first.map toInt).sum)

variable {fits : Int → Prop} {start : Amount} {amounts : List Amount}

theorem everySum_nil_iff : EverySum fits start [] ↔ fits start.toInt := by
  simp [EverySum]

theorem everySum_concat_iff {last : Amount} :
    EverySum fits start (amounts ++ [last]) ↔
      EverySum fits start amounts ∧
        fits (start.toInt + (amounts.map toInt).sum + last.toInt) := by
  have whole : start.toInt + ((amounts ++ [last]).map toInt).sum =
      start.toInt + (amounts.map toInt).sum + last.toInt := by
    simp [Int.add_assoc]
  constructor
  · intro every
    refine ⟨fun first initial =>
      every first (initial.trans (List.prefix_append _ _)), ?_⟩
    rw [← whole]
    exact every _ (List.prefix_refl _)
  · rintro ⟨before, after⟩ first initial
    rcases List.prefix_concat_iff.mp initial with rfl | earlier
    · rwa [whole]
    · exact before first earlier

/-- Nothing is cut off where every sum on the way is in range. -/
theorem toInt_foldl_plus (within : EverySum InRange start amounts) :
    (amounts.foldl plus start).toInt =
      start.toInt + (amounts.map toInt).sum := by
  induction amounts using List.reverseRecOn with
  | nil => simp
  | append_singleton before last ih =>
      rcases everySum_concat_iff.mp within with ⟨earlier, here⟩
      rw [List.foldl_concat, toInt_plus, ih earlier,
        saturated_of_inRange here.1 here.2]
      simp [Int.add_assoc]

/-- A sum is narrow if the start and all amounts are and 32 bits can hold every
sum on the way. -/
theorem isNarrow_foldl_plus :
    (amounts.foldl plus start).isNarrow = true ↔
      start.isNarrow = true ∧
        (∀ amount ∈ amounts, amount.isNarrow = true) ∧
        EverySum (fun sum => Number.inInt32Range sum = true) start amounts := by
  induction amounts using List.reverseRecOn with
  | nil =>
      cases start with
      | int64 => simp [isNarrow]
      | int32 number =>
          have least := number.le_toInt
          have greatest := number.toInt_lt
          have fits : -0x80000000 ≤ number.toInt ∧ number.toInt < 0x80000000 :=
            ⟨least, greatest⟩
          simp [everySum_nil_iff, isNarrow, toInt, Number.inInt32Range, fits]
  | append_singleton before last ih =>
      have exact_before :
          EverySum (fun sum => Number.inInt32Range sum = true) start before →
            (before.foldl plus start).toInt =
              start.toInt + (before.map toInt).sum := by
        intro narrow
        apply toInt_foldl_plus
        intro first initial
        have fits := narrow first initial
        simp only [Number.inInt32Range, decide_eq_true_eq] at fits
        exact ⟨by omega, by omega⟩
      rw [List.foldl_concat, isNarrow_plus, Bool.and_eq_true, Bool.and_eq_true,
        ih, everySum_concat_iff]
      constructor
      · rintro ⟨⟨⟨narrow, all, sums⟩, lastNarrow⟩, fits⟩
        rw [exact_before sums] at fits
        refine ⟨narrow, ?_, sums, fits⟩
        intro amount member
        rcases List.mem_append.mp member with old | new
        · exact all amount old
        · rwa [List.mem_singleton.mp new]
      · rintro ⟨narrow, all, sums, fits⟩
        refine ⟨⟨⟨narrow, fun amount member =>
          all amount (List.mem_append_left _ member), sums⟩,
          all last (by simp)⟩, ?_⟩
        rwa [exact_before sums]

/-! ## Runs over values -/

/-- Increments carry an amount along. -/
theorem gather_toValue (field : String) (start : Amount)
    (amounts : List Amount) :
    gather (fun current increment => add current increment field)
        (amounts.map toValue) (some start.toValue) =
      .ok (some (amounts.foldl plus start).toValue) := by
  induction amounts generalizing start with
  | nil => rfl
  | cons amount rest ih =>
      rw [gather, List.map_cons, List.foldlM_cons, add_toValue]
      exact ih (start.plus amount)

/-- Where nothing is held, increments start from a narrow zero. -/
theorem gather_toValue_getD (field : String) {held : Option Amount}
    (given : amounts ≠ [] ∨ held.isSome = true) :
    gather (fun current increment => add current increment field)
        (amounts.map toValue) (held.map toValue) =
      .ok (some (amounts.foldl plus (held.getD (.int32 0))).toValue) := by
  cases held with
  | some start => exact gather_toValue field start amounts
  | none =>
      cases amounts with
      | nil => simp at given
      | cons amount rest =>
          rw [gather, List.map_cons, List.foldlM_cons, Option.map_none,
            add_none_toValue]
          exact gather_toValue field _ rest

end Amount

/-! ## Runs at a path -/

/-- Increments at a path, one after the other, succeed and leave there a
sum. -/
def CountsTo (path : String) (document : Document) (amounts : List Amount)
    (sum : Amount) : Prop :=
  ∃ reached,
    applyAll ((amounts.map Amount.toValue).map (single .inc path)) document =
      .ok reached ∧
    reached.getPath? path = some sum.toValue

variable {document : Document} {path : String} {held : Option Amount}
  {amounts : List Amount} {sum : Amount}

theorem countsTo_foldl_plus (readable : isReadablePath path = true)
    (holds : document.getPath? path = held.map Amount.toValue)
    (given : amounts ≠ [] ∨ held.isSome = true) :
    CountsTo path document amounts
      (amounts.foldl Amount.plus (held.getD (.int32 0))) := by
  have run := map_follow?_run_of_readable (accumulates_increment path) readable
    (amounts.map Amount.toValue) document
  have start : document.follow? (pathNames path) =
      held.map Amount.toValue := by
    rw [← holds, Document.getPath?, if_pos readable]
  rw [start, Amount.gather_toValue_getD path given, map_eq_ok_iff] at run
  rcases run with ⟨reached, done, left⟩
  have known : UpdateOperator.inc.change? = some incrementField := rfl
  refine ⟨reached, ?_, ?_⟩
  · rw [applyAll_single known, done]
  · rw [Document.getPath?, if_pos readable, left]

/-- Increments come to their sum; no increment of nothing leaves nothing. -/
theorem countsTo_iff (readable : isReadablePath path = true)
    (holds : document.getPath? path = held.map Amount.toValue) :
    CountsTo path document amounts sum ↔
      (amounts ≠ [] ∨ held.isSome = true) ∧
        amounts.foldl Amount.plus (held.getD (.int32 0)) = sum := by
  constructor
  · rintro ⟨reached, done, found⟩
    have given : amounts ≠ [] ∨ held.isSome = true := by
      by_contra neither
      simp only [not_or, not_not, Bool.not_eq_true, Option.isSome_eq_false_iff,
        Option.isNone_iff_eq_none] at neither
      rcases neither with ⟨rfl, rfl⟩
      rcases Except.ok.inj done with rfl
      simp [holds] at found
    rcases countsTo_foldl_plus readable holds given with
      ⟨other, otherDone, otherFound⟩
    rcases Except.ok.inj (done.symm.trans otherDone) with rfl
    rw [otherFound] at found
    exact ⟨given, Amount.toValue_injective (Option.some.inj found)⟩
  · rintro ⟨given, rfl⟩
    exact countsTo_foldl_plus readable holds given

/-- The laws of increments by integers at a path, from what it holds at
first. -/
structure IncrementLaws (path : String) (document : Document)
    (held : Option Amount) : Prop where
  /-- No increment fails, and the path holds an integer afterwards. -/
  counts (amounts : List Amount)
    (given : amounts ≠ [] ∨ held.isSome = true) :
    ∃ sum, CountsTo path document amounts sum
  /-- A wide integer is not made narrow. -/
  wide {amounts : List Amount} {amount sum next : Amount}
    (before : CountsTo path document amounts sum)
    (after : CountsTo path document (amounts ++ [amount]) next)
    (wide : sum.isNarrow = false) : next.isNarrow = false
  /-- An integer is narrow as long as nothing wide was added and 32 bits could
  hold every sum on the way. -/
  narrow_iff {amounts : List Amount} {sum : Amount}
    (counted : CountsTo path document amounts sum) :
    sum.isNarrow = true ↔
      (held.getD (.int32 0)).isNarrow = true ∧
        (∀ amount ∈ amounts, amount.isNarrow = true) ∧
        Amount.EverySum (fun sum => Number.inInt32Range sum = true)
          (held.getD (.int32 0)) amounts
  /-- The number is the exact sum if 64 bits could hold every sum on the
  way. -/
  exact_of_within {amounts : List Amount} {sum : Amount}
    (counted : CountsTo path document amounts sum)
    (within : Amount.EverySum InRange (held.getD (.int32 0)) amounts) :
    sum.toInt =
      (held.getD (.int32 0)).toInt + (amounts.map Amount.toInt).sum
  /-- Two orders in which 64 bits could hold every sum on the way come to one
  number. -/
  orderless {amounts others : List Amount} {sum other : Amount}
    (rearranged : amounts.Perm others)
    (counted : CountsTo path document amounts sum)
    (otherCounted : CountsTo path document others other)
    (within : Amount.EverySum InRange (held.getD (.int32 0)) amounts)
    (otherWithin : Amount.EverySum InRange (held.getD (.int32 0)) others) :
    sum.toInt = other.toInt ∧ sum.toValue.agrees other.toValue = true
  /-- A step beyond the greatest number of 64 bits comes to that number. -/
  greatest {amounts : List Amount} {amount sum next : Amount}
    (before : CountsTo path document amounts sum)
    (after : CountsTo path document (amounts ++ [amount]) next)
    (beyond : 0x7FFFFFFFFFFFFFFF < sum.toInt + amount.toInt) :
    next.toInt = 0x7FFFFFFFFFFFFFFF
  /-- A step beyond the least number of 64 bits comes to that number. -/
  least {amounts : List Amount} {amount sum next : Amount}
    (before : CountsTo path document amounts sum)
    (after : CountsTo path document (amounts ++ [amount]) next)
    (beyond : sum.toInt + amount.toInt < -0x8000000000000000) :
    next.toInt = -0x8000000000000000

/-- Increments by integers at a readable path that holds an integer or nothing
obey the laws of increments. -/
theorem incrementLaws_of_readable (readable : isReadablePath path = true)
    (holds : document.getPath? path = held.map Amount.toValue) :
    IncrementLaws path document held := by
  have counted {amounts : List Amount} {sum : Amount}
      (counted : CountsTo path document amounts sum) :
      amounts.foldl Amount.plus (held.getD (.int32 0)) = sum :=
    ((countsTo_iff readable holds).mp counted).2
  have step {amounts : List Amount} {amount sum next : Amount}
      (before : CountsTo path document amounts sum)
      (after : CountsTo path document (amounts ++ [amount]) next) :
      sum.plus amount = next := by
    rw [← counted before, ← counted after, List.foldl_concat]
  constructor
  case counts =>
    intro amounts given
    exact ⟨_, countsTo_foldl_plus readable holds given⟩
  case wide =>
    intro amounts amount sum next before after wide
    rw [← step before after, Amount.isNarrow_plus, wide, Bool.false_and,
      Bool.false_and]
  case narrow_iff =>
    intro amounts sum total
    rw [← counted total, Amount.isNarrow_foldl_plus]
  case exact_of_within =>
    intro amounts sum total within
    rw [← counted total, Amount.toInt_foldl_plus within]
  case orderless =>
    intro amounts others sum other rearranged total otherTotal within
      otherWithin
    have same : sum.toInt = other.toInt := by
      rw [← counted total, ← counted otherTotal,
        Amount.toInt_foldl_plus within, Amount.toInt_foldl_plus otherWithin,
        (rearranged.map Amount.toInt).sum_eq]
    exact ⟨same, Amount.agrees_toValue same⟩
  case greatest =>
    intro amounts amount sum next before after beyond
    rw [← step before after, Amount.toInt_plus, saturated_eq]
    omega
  case least =>
    intro amounts amount sum next before after beyond
    rw [← step before after, Amount.toInt_plus, saturated_eq]
    omega

/-- The greatest narrow integer becomes wide by a step up, and does not become
narrow again by a step down. -/
theorem incrementLaws_of_readable_widening :
    isReadablePath "n" = true ∧
      Document.getPath? [("n", .int32 0x7FFFFFFF)] "n" =
        (some (Amount.int32 0x7FFFFFFF)).map Amount.toValue ∧
      ∃ sum,
        CountsTo "n" [("n", .int32 0x7FFFFFFF)] [.int32 1, .int32 (-1)] sum ∧
        sum.isNarrow = false ∧ sum.toInt = 0x7FFFFFFF := by
  have readable : isReadablePath "n" = true := by decide +kernel
  have holds : Document.getPath? [("n", .int32 0x7FFFFFFF)] "n" =
      (some (Amount.int32 0x7FFFFFFF)).map Amount.toValue := by
    rw [Document.getPath?, if_pos readable,
      show pathNames "n" = ["n"] by decide +kernel]
    rfl
  have laws := incrementLaws_of_readable readable holds
  rcases laws.counts [.int32 1, .int32 (-1)] (by simp) with ⟨sum, counted⟩
  refine ⟨readable, holds, sum, counted, ?_, ?_⟩
  · rw [← Bool.not_eq_true, laws.narrow_iff counted]
    rintro ⟨-, -, sums⟩
    exact absurd (sums [.int32 1] (by simp)) (by decide)
  · rw [laws.exact_of_within counted]
    · decide
    · show Amount.EverySum InRange _ ([] ++ [.int32 1] ++ [.int32 (-1)])
      rw [Amount.everySum_concat_iff, Amount.everySum_concat_iff,
        Amount.everySum_nil_iff]
      decide

end Update

end DocQuery
