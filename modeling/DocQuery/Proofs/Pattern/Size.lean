import DocQuery.Pattern.Automaton
import Mathlib.Algebra.BigOperators.Group.List.Basic
import Mathlib.Algebra.GroupWithZero.Nat

/-!
# The size of simple automata

Counting stops as soon as an automaton is too large, and since nothing counted
is given back, only the sum matters.  An expression of literals and places
takes a state for every byte and every place.  With the states around it, the
automata for it are small exactly below a bound on that number.
-/

namespace DocQuery.Pattern

/-- A text has as many bytes as its encoding. -/
theorem length_bytesOfText (characters : List Char) :
    (bytesOfText characters).length =
      (String.ofList characters).utf8ByteSize := by
  induction characters with
  | nil => rfl
  | cons character rest ih =>
      rw [String.ofList_cons, String.utf8ByteSize_append, ← ih]
      simp [bytesOfText, bytesOf, String.length_utf8EncodeChar]

namespace Tally

variable {tally next : Tally} {states transitions alternatives : Nat}

/-- Counting twice is counting the sum. -/
theorem add?_bind (tally : Tally) (states transitions alternatives
      states' transitions' alternatives' : Nat) :
    ((tally.add? states transitions alternatives).bind fun next =>
        next.add? states' transitions' alternatives') =
      tally.add? (states + states') (transitions + transitions')
        (alternatives + alternatives') := by
  simp only [add?, ← Nat.add_assoc]
  split
  · next large =>
      rw [Option.bind_none, if_pos]
      simp only [size] at large ⊢
      omega
  · rw [Option.bind_some]

theorem add?_zero (fits : tally.size ≤ maxSize) :
    tally.add? 0 0 0 = some tally := by
  rw [add?, if_neg]
  · rfl
  · exact Nat.not_lt.mpr fits

theorem isSome_zero_add?_iff :
    (zero.add? states transitions alternatives).isSome = true ↔
      32 * states + 8 * transitions + 4 * alternatives ≤ maxSize := by
  simp only [add?, zero, size, Nat.zero_add]
  split
  · next large => simpa using large
  · next fits => simpa using fits

end Tally

namespace Expression

/-- An expression takes a number of states in either direction, and no fork is
left open by them. -/
def Takes (expression : Expression) (states : Nat) : Prop :=
  ∀ direction tally, tally.size ≤ maxSize →
    expression.count? direction tally =
      (tally.add? states 0 0).map fun next => (false, next)

theorem takes_empty : Takes .empty 1 := by
  intro direction tally _
  simp only [count?]

theorem takes_literal (characters : List Char) :
    Takes (.literal characters) (bytesOfText characters).length := by
  intro direction tally _
  simp only [count?]

theorem takes_place (kind : Place) : Takes (.place kind) 1 := by
  intro direction tally _
  simp only [count?]

/-- To go on after a state that is no fork costs nothing. -/
theorem goOn?_of_add? {tally next : Tally} {states transitions alternatives : Nat}
    (added : tally.add? states transitions alternatives = some next) :
    Counted.goOn? (false, next) = some next :=
  Tally.add?_zero (Tally.size_le_of_add? added)

theorem countSequence?_of_takes {items : List Expression} {counts : List Nat}
    (each : List.Forall₂ Takes items counts) (direction : Direction)
    {tally : Tally} (fits : tally.size ≤ maxSize) :
    countSequence? direction items (false, tally) =
      (tally.add? counts.sum 0 0).map fun next => (false, next) := by
  induction each generalizing tally with
  | nil =>
      simp only [countSequence?, List.sum_nil, Tally.add?_zero fits,
        Option.map_some]
  | @cons item states items counts takes each ih =>
      have start : Counted.goOn? (false, tally) = some tally :=
        Tally.add?_zero fits
      cases direction with
      | forward =>
          simp only [countSequence?, start, takes _ _ fits, bind,
            Option.bind_some, List.sum_cons]
          rw [← tally.add?_bind states 0 0 counts.sum 0 0]
          cases added : tally.add? states 0 0 with
          | none => rfl
          | some next => exact ih (Tally.size_le_of_add? added)
      | backward =>
          simp only [countSequence?, ih fits, bind, List.sum_cons]
          rw [Nat.add_comm, ← tally.add?_bind counts.sum 0 0 states 0 0]
          cases added : tally.add? counts.sum 0 0 with
          | none => rfl
          | some next =>
              simp only [Option.map_some, Option.bind_some,
                goOn?_of_add? added]
              exact takes _ _ (Tally.size_le_of_add? added)

theorem takes_sequence {items : List Expression} {counts : List Nat}
    (each : List.Forall₂ Takes items counts) :
    Takes (.sequence items) counts.sum := by
  intro direction tally fits
  rw [count?]
  exact countSequence?_of_takes each direction fits

theorem takes_joined {expressions items : List Expression}
    {counts : List Nat}
    (form : joinLiterals (expressions.flatMap Expression.items) = items)
    (each : List.Forall₂ Takes items counts) :
    Takes (joined expressions) (if items = [] then 1 else counts.sum) := by
  rw [joined, form]
  cases each with
  | nil => exact takes_empty
  | cons here later =>
      cases later with
      | nil => simpa using here
      | cons next others => exact takes_sequence (.cons here (.cons next others))

/-- The bounds on a sequence are those on its items. -/
theorem extent_joined {expressions items : List Expression}
    (form : joinLiterals (expressions.flatMap Expression.items) = items) :
    (joined expressions).extent = sequenceExtent items := by
  have alone (bounds : Extent) : bounds.followedBy .nothing = bounds := by
    rcases bounds with ⟨shortest, longest, fromStart, toEnd⟩
    cases shortest <;> cases longest <;>
      simp [Extent.followedBy, Extent.nothing, Extent.plus]
  rw [joined, form]
  split
  · simp only [sequenceExtent, extent_empty]
  · simp only [sequenceExtent, alone]
  · rw [extent]

/-- The states in front of an expression that is looked for anywhere, or only
at the end where reading begins, and the states behind it. -/
theorem isSome_around_iff {expression : Expression} {states : Nat}
    (takes : expression.Takes states) (direction : Direction)
    (before after : Nat) (transitions alternatives : Nat) :
    (((Tally.zero.add? before transitions alternatives).bind fun tally =>
      (expression.count? direction tally).bind fun counted =>
        counted.goOn?.bind fun tally => tally.add? after 0 0).isSome = true) ↔
      32 * (before + states + after) + 8 * transitions + 4 * alternatives ≤
        maxSize := by
  rw [← Tally.isSome_zero_add?_iff]
  have sum : Tally.zero.add? (before + states + after) transitions
      alternatives =
      (Tally.zero.add? before transitions alternatives).bind fun tally =>
        (tally.add? states 0 0).bind fun tally => tally.add? after 0 0 := by
    simp only [Tally.add?_bind, Nat.add_zero, ← Nat.add_assoc]
  rw [sum]
  cases added : Tally.zero.add? before transitions alternatives with
  | none => rfl
  | some tally =>
      rw [Option.bind_some, Option.bind_some,
        takes direction tally (Tally.size_le_of_add? added)]
      cases counted : tally.add? states 0 0 with
      | none => rfl
      | some next =>
          simp only [Option.map_some, Option.bind_some, goOn?_of_add? counted]

/-- The automata for an expression are small exactly if there is room for its
states and those around them: more are needed unless every match begins where
reading begins. -/
theorem isSmall_iff {expression : Expression} {states : Nat}
    (takes : expression.Takes states) :
    expression.isSmall = true ↔
      32 * states + (if expression.extent.fromStart then 128 else 208) ≤
          maxSize ∧
        32 * states + (if expression.extent.toEnd then 64 else 144) ≤
          maxSize := by
  rw [isSmall, Bool.and_eq_true]
  apply and_congr
  · rw [automaton?]
    cases expression.extent.fromStart with
    | false =>
        have around := isSome_around_iff takes .forward 4 2 1 2
        rw [← Tally.add?_bind Tally.zero 3 1 2 1 0 0, Option.bind_assoc] at around
        refine around.trans ?_
        simp only [Bool.false_eq_true, if_false]
        omega
    | true =>
        have around := isSome_around_iff takes .forward 2 2 0 0
        rw [← Tally.add?_bind Tally.zero 1 0 0 1 0 0, Option.bind_assoc] at around
        refine around.trans ?_
        simp only [if_true]
        omega
  · rw [automaton?]
    cases expression.extent.toEnd with
    | false =>
        refine (isSome_around_iff takes .backward 3 1 1 2).trans ?_
        simp only [Bool.false_eq_true, if_false]
        omega
    | true =>
        refine (isSome_around_iff takes .backward 1 1 0 0).trans ?_
        simp only [if_true]
        omega

end Expression

end DocQuery.Pattern
