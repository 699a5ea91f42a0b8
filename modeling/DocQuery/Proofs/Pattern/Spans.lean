import DocQuery.Pattern.Matching
import Mathlib.Tactic.Common

/-!
# What an expression matches

An expression spans the text between two places: a literal that stands there,
a character of a set, one part after the other.  The matcher moves sets of
places instead, and all possibilities at once; it finds the places where
something that the expression spans ends, and no others.

The moves compute relations between places.  How they are composed, repeated
and iterated is said for relations once, apart from expressions.
-/

namespace DocQuery.Pattern

/-! ## Sets of places -/

/-- A place belongs to a set of places. -/
def IsIn (place : Nat) (places : List Bool) : Prop := places[place]? = some true

/-- A set of places of a text of a given length. -/
def IsSet (length : Nat) (places : List Bool) : Prop :=
  places.length = length + 1

/-- A move maps every set of places of a text to the set of places that are
related to one of them. -/
def Computes (length : Nat) (next : List Bool → List Bool)
    (relation : Nat → Nat → Prop) : Prop :=
  ∀ places, IsSet length places →
    IsSet length (next places) ∧
      ∀ last, IsIn last (next places) ↔
        ∃ first, IsIn first places ∧ relation first last

/-- Related through so many steps. -/
def Times (relation : Nat → Nat → Prop) : Nat → Nat → Nat → Prop
  | 0, first, last => first = last
  | count + 1, first, last =>
    ∃ middle, relation first middle ∧ Times relation count middle last

section

variable {length : Nat} {next : List Bool → List Bool}
  {relation other : Nat → Nat → Prop} {places : List Bool} {first last : Nat}

theorem IsIn.le (inside : IsIn first places) (set : IsSet length places) :
    first ≤ length := by
  have bound := (List.getElem?_eq_some_iff.mp inside).1
  rw [set] at bound
  omega

theorem Computes.congr (computes : Computes length next relation)
    (same : ∀ first last, first ≤ length →
      (relation first last ↔ other first last)) :
    Computes length next other := by
  intro places set
  rcases computes places set with ⟨moved, found⟩
  refine ⟨moved, fun last => ?_⟩
  rw [found]
  constructor
  · rintro ⟨first, inside, related⟩
    exact ⟨first, inside, (same first last (inside.le set)).mp related⟩
  · rintro ⟨first, inside, related⟩
    exact ⟨first, inside, (same first last (inside.le set)).mpr related⟩

theorem Computes.last_le (computes : Computes length next relation)
    (set : IsSet length places) (inside : IsIn first places)
    (related : relation first last) : last ≤ length := by
  rcases computes places set with ⟨moved, found⟩
  exact ((found last).mpr ⟨first, inside, related⟩).le moved

theorem computes_id : Computes length (fun places => places) (· = ·) := by
  intro places set
  exact ⟨set, fun last => by simp⟩

theorem Computes.comp {further : List Bool → List Bool}
    (computes : Computes length next relation)
    (later : Computes length further other) :
    Computes length (fun places => further (next places))
      fun first last =>
        ∃ middle, relation first middle ∧ other middle last := by
  intro places set
  rcases computes places set with ⟨moved, found⟩
  rcases later _ moved with ⟨movedOn, foundLater⟩
  refine ⟨movedOn, fun last => ?_⟩
  simp only [foundLater, found]
  constructor
  · rintro ⟨middle, ⟨first, inside, related⟩, onward⟩
    exact ⟨first, inside, middle, related, onward⟩
  · rintro ⟨first, inside, middle, related, onward⟩
    exact ⟨middle, ⟨first, inside, related⟩, onward⟩

theorem isSet_unite {left right : List Bool} (leftSet : IsSet length left)
    (rightSet : IsSet length right) : IsSet length (unite left right) := by
  unfold IsSet at leftSet rightSet ⊢
  rw [unite, List.length_zipWith, leftSet, rightSet, Nat.min_self]

theorem isIn_unite {left right : List Bool} (leftSet : IsSet length left)
    (rightSet : IsSet length right) {place : Nat} :
    IsIn place (unite left right) ↔ IsIn place left ∨ IsIn place right := by
  unfold IsSet at leftSet rightSet
  simp only [IsIn, unite, List.getElem?_zipWith]
  by_cases within : place < length + 1
  · rw [List.getElem?_eq_getElem (leftSet ▸ within),
      List.getElem?_eq_getElem (rightSet ▸ within)]
    simp
  · have leftNone : left[place]? = none :=
      List.getElem?_eq_none_iff.mpr (by omega)
    have rightNone : right[place]? = none :=
      List.getElem?_eq_none_iff.mpr (by omega)
    simp [leftNone, rightNone]

theorem Computes.unite {further : List Bool → List Bool}
    (computes : Computes length next relation)
    (later : Computes length further other) :
    Computes length (fun places => unite (next places) (further places))
      fun first last => relation first last ∨ other first last := by
  intro places set
  rcases computes places set with ⟨moved, found⟩
  rcases later places set with ⟨movedOn, foundLater⟩
  refine ⟨isSet_unite moved movedOn, fun last => ?_⟩
  simp only [isIn_unite moved movedOn, found, foundLater, and_or_left,
    exists_or]

/-! ## Repeated moves -/

theorem times_add {left right : Nat} (first last : Nat) :
    Times relation (left + right) first last ↔
      ∃ middle, Times relation left first middle ∧
        Times relation right middle last := by
  induction left generalizing first with
  | zero => simp [Times]
  | succ left ih =>
      rw [Nat.succ_add]
      simp only [Times, ih]
      constructor
      · rintro ⟨next, related, middle, before, after⟩
        exact ⟨middle, ⟨next, related, before⟩, after⟩
      · rintro ⟨middle, ⟨next, related, before⟩, after⟩
        exact ⟨next, related, middle, before, after⟩

/-- What a move does not change is closed under its steps. -/
theorem Computes.isIn_of_times (computes : Computes length next relation)
    (set : IsSet length places)
    (closed : ∀ place, IsIn place (next places) → IsIn place places)
    {count : Nat} (inside : IsIn first places)
    (related : Times relation count first last) : IsIn last places := by
  induction count generalizing first with
  | zero => exact related ▸ inside
  | succ count ih =>
      rcases related with ⟨middle, step, later⟩
      have reached : IsIn middle (next places) :=
        ((computes places set).2 middle).mpr ⟨first, inside, step⟩
      exact ih (closed middle reached) later

theorem Computes.applyTimes (computes : Computes length next relation)
    (count : Nat) :
    Computes length (applyTimes next count) (Times relation count) := by
  induction count with
  | zero => exact computes_id
  | succ count ih =>
      intro places set
      rcases computes places set with ⟨moved, found⟩
      simp only [Pattern.applyTimes]
      split
      · next unchanged =>
          refine ⟨set, fun last => ?_⟩
          constructor
          · intro inside
            -- Every place of the set is reached from another one of it, so
            -- also through any number of steps.
            have backwards (count : Nat) : ∀ {last}, IsIn last places →
                ∃ first, IsIn first places ∧
                  Times relation count first last := by
              induction count with
              | zero => exact fun inside => ⟨_, inside, rfl⟩
              | succ count ih =>
                  intro last inside
                  rcases ih inside with ⟨middle, within, later⟩
                  rw [← unchanged, found] at within
                  rcases within with ⟨first, start, step⟩
                  exact ⟨first, start, middle, step, later⟩
            exact backwards (count + 1) inside
          · rintro ⟨first, inside, related⟩
            exact computes.isIn_of_times set (by simp [unchanged]) inside
              related
      · rcases ih _ moved with ⟨movedOn, foundLater⟩
        refine ⟨movedOn, fun last => ?_⟩
        rw [foundLater]
        simp only [found, Times]
        constructor
        · rintro ⟨middle, ⟨first, inside, step⟩, later⟩
          exact ⟨first, inside, middle, step, later⟩
        · rintro ⟨first, inside, middle, step, later⟩
          exact ⟨middle, ⟨first, inside, step⟩, later⟩

theorem Computes.growTimes (computes : Computes length next relation)
    (count : Nat) :
    Computes length (growTimes next count)
      fun first last => ∃ steps ≤ count, Times relation steps first last := by
  induction count with
  | zero =>
      refine computes_id.congr fun first last _ => ?_
      simp [Times]
  | succ count ih =>
      intro places set
      rcases computes places set with ⟨moved, found⟩
      have grownSet := isSet_unite set moved
      have grown (place : Nat) := @isIn_unite _ _ _ set moved place
      simp only [Pattern.growTimes]
      split
      · next unchanged =>
          refine ⟨set, fun last => ?_⟩
          constructor
          · exact fun inside => ⟨last, inside, 0, by omega, rfl⟩
          · rintro ⟨first, inside, steps, -, related⟩
            refine computes.isIn_of_times set ?_ inside related
            intro place reached
            rw [← unchanged]
            exact (grown place).mpr (Or.inr reached)
      · rcases ih _ grownSet with ⟨movedOn, foundLater⟩
        refine ⟨movedOn, fun last => ?_⟩
        rw [foundLater]
        simp only [grown, found]
        constructor
        · rintro ⟨middle, inside | ⟨first, inside, step⟩, steps, few, later⟩
          · exact ⟨middle, inside, steps, by omega, later⟩
          · exact ⟨first, inside, steps + 1, by omega, middle, step, later⟩
        · rintro ⟨first, inside, steps, few, related⟩
          cases steps with
          | zero => exact ⟨first, Or.inl inside, 0, by omega, related⟩
          | succ steps =>
              rcases related with ⟨middle, step, later⟩
              exact ⟨middle, Or.inr ⟨first, inside, step⟩, steps, by omega,
                later⟩

/-- Steps that do not go back and stay at a place can be left out. -/
theorem exists_times_le (forward : ∀ first last, relation first last →
      first ≤ last) {count : Nat} (related : Times relation count first last) :
    ∃ steps, steps ≤ last - first ∧ first ≤ last ∧
      Times relation steps first last := by
  induction count generalizing first with
  | zero => exact ⟨0, by omega, by cases related; omega, related⟩
  | succ count ih =>
      rcases related with ⟨middle, step, later⟩
      have onward := forward first middle step
      rcases ih later with ⟨steps, few, further, shorter⟩
      rcases Nat.eq_or_lt_of_le onward with rfl | ahead
      · exact ⟨steps, few, further, shorter⟩
      · exact ⟨steps + 1, by omega, by omega, middle, step, shorter⟩

/-- As many steps as there are places reach all that any number reaches. -/
theorem Computes.growTimes_all (computes : Computes length next relation)
    (forward : ∀ first last, relation first last → first ≤ last) :
    Computes length (Pattern.growTimes next (length + 1))
      fun first last => ∃ steps, Times relation steps first last := by
  intro places set
  rcases computes.growTimes (length + 1) places set with ⟨moved, found⟩
  refine ⟨moved, fun last => ?_⟩
  rw [found]
  constructor
  · rintro ⟨first, start, steps, -, related⟩
    exact ⟨first, start, steps, related⟩
  · rintro ⟨first, start, steps, related⟩
    have bound := (computes.applyTimes steps).last_le set start related
    rcases exists_times_le forward related with ⟨fewer, few, -, shorter⟩
    exact ⟨first, start, fewer, by omega, shorter⟩

end

/-! ## Moves past characters -/

/-- A character that passes a test stands between two neighbouring places. -/
def PassesOne (text : List Char) (accepts : Char → Bool) (first last : Nat) :
    Prop :=
  (∃ character, text[first]? = some character ∧ accepts character = true) ∧
    last = first + 1

section

variable {text : List Char} {accepts : Char → Bool}

theorem computes_advance (text : List Char) (accepts : Char → Bool) :
    Computes text.length (advance text accepts) (PassesOne text accepts) := by
  intro places set
  unfold IsSet at set
  constructor
  · simp only [IsSet, advance, List.length_cons, List.length_zipWith]
    omega
  · intro last
    cases last with
    | zero => simp [IsIn, advance, PassesOne]
    | succ last =>
        simp only [IsIn, advance, List.getElem?_cons_succ,
          List.getElem?_zipWith, PassesOne, Nat.add_right_cancel_iff]
        cases here : places[last]? with
        | none => simp [here]
        | some reached =>
            cases there : text[last]? with
            | none => simp [there, here]
            | some character => simp [there, here]

/-- Every character between two places passes a test. -/
def PassesAll (text : List Char) (accepts : Char → Bool) (first last : Nat) :
    Prop :=
  first ≤ last ∧ ∀ place, first ≤ place → place < last →
    ∃ character, text[place]? = some character ∧ accepts character = true

theorem exists_times_passesOne_iff {first last : Nat} :
    (∃ count, Times (PassesOne text accepts) count first last) ↔
      PassesAll text accepts first last := by
  constructor
  · rintro ⟨count, related⟩
    induction count generalizing first with
    | zero =>
        cases related
        exact ⟨Nat.le_refl _, by omega⟩
    | succ count ih =>
        rcases related with ⟨middle, ⟨passed, rfl⟩, later⟩
        rcases ih later with ⟨ordered, all⟩
        refine ⟨by omega, fun place low high => ?_⟩
        rcases Nat.eq_or_lt_of_le low with rfl | above
        · exact passed
        · exact all place above high
  · rintro ⟨ordered, all⟩
    obtain ⟨count, rfl⟩ := Nat.exists_eq_add_of_le ordered
    refine ⟨count, ?_⟩
    clear ordered
    induction count generalizing first with
    | zero => rfl
    | succ count ih =>
        refine ⟨first + 1, ⟨all first (by omega) (by omega), rfl⟩, ?_⟩
        have later := @ih (first + 1) fun place low high =>
          all place (by omega) (by omega)
        rwa [show first + (count + 1) = first + 1 + count by omega]

theorem passesAll_succ_succ {character : Char} {first last : Nat} :
    PassesAll (character :: text) accepts (first + 1) (last + 1) ↔
      PassesAll text accepts first last := by
  simp only [PassesAll, Nat.add_le_add_iff_right]
  constructor
  · rintro ⟨ordered, all⟩
    refine ⟨ordered, fun place low high => ?_⟩
    simpa using all (place + 1) (by omega) (by omega)
  · rintro ⟨ordered, all⟩
    refine ⟨ordered, fun place low high => ?_⟩
    cases place with
    | zero => omega
    | succ place => simpa using all place (by omega) (by omega)

theorem passesAll_zero_iff {first : Nat} :
    PassesAll text accepts first 0 ↔ first = 0 := by
  constructor
  · rintro ⟨ordered, -⟩
    omega
  · rintro rfl
    exact ⟨Nat.le_refl _, by omega⟩

theorem passesAll_zero_succ {character : Char} {last : Nat} :
    PassesAll (character :: text) accepts 0 (last + 1) ↔
      accepts character = true ∧ PassesAll text accepts 0 last := by
  rw [← @passesAll_succ_succ text accepts character 0 last]
  constructor
  · rintro ⟨-, all⟩
    refine ⟨by simpa using all 0 (by omega) (by omega), by omega, ?_⟩
    exact fun place low high => all place (by omega) high
  · rintro ⟨passed, -, all⟩
    refine ⟨by omega, fun place low high => ?_⟩
    cases place with
    | zero => exact ⟨character, rfl, passed⟩
    | succ place => exact all (place + 1) (by omega) high

theorem spread_eq_append (accepts : Char → Bool) (before : Bool)
    (seen : List Bool) (text : List Char) (places : List Bool) :
    spread accepts before seen text places =
      seen.reverse ++ spread accepts before [] text places := by
  induction text generalizing before seen places with
  | nil => simp [spread]
  | cons character text ih =>
      cases places with
      | nil => simp [spread]
      | cons reached places =>
          simp only [spread]
          rw [ih, ih _ [_]]
          simp

theorem length_spread {places : List Bool} (set : IsSet text.length places)
    (before : Bool) :
    IsSet text.length (spread accepts before [] text places) := by
  unfold IsSet at set ⊢
  induction text generalizing before places with
  | nil => simpa [spread] using set
  | cons character text ih =>
      cases places with
      | nil => simp at set
      | cons reached places =>
          have rest := @ih places (by simpa using set)
          rw [spread, spread_eq_append, List.length_append, rest]
          simp
          omega

theorem exists_isIn_cons {reached : Bool} {places : List Bool}
    {property : Nat → Prop} :
    (∃ first, IsIn first (reached :: places) ∧ property first) ↔
      (reached = true ∧ property 0) ∨
        ∃ first, IsIn first places ∧ property (first + 1) := by
  rw [← Nat.or_exists_add_one]
  simp [IsIn]

/-- Places are spread over characters that pass the test, from those of the
set, and from the first place if it is reached from before. -/
theorem isIn_spread {places : List Bool} (set : IsSet text.length places)
    (before : Bool) (last : Nat) :
    IsIn last (spread accepts before [] text places) ↔
      (before = true ∧ PassesAll text accepts 0 last) ∨
        ∃ first, IsIn first places ∧ PassesAll text accepts first last := by
  unfold IsSet at set
  induction text generalizing before places last with
  | nil =>
      obtain ⟨reached, rfl⟩ := List.length_eq_one_iff.mp set
      rw [exists_isIn_cons]
      cases last with
      | zero => simp [spread, IsIn, passesAll_zero_iff]
      | succ last =>
          have outside : ¬ PassesAll [] accepts 0 (last + 1) := by
            rintro ⟨-, all⟩
            simpa using all 0 (by omega) (by omega)
          simp [outside, spread, IsIn]
  | cons character text ih =>
      cases places with
      | nil => simp at set
      | cons reached places =>
          rw [spread, spread_eq_append, exists_isIn_cons]
          cases last with
          | zero => simp [IsIn, passesAll_zero_iff]
          | succ last =>
              have further : IsIn (last + 1) ([before || reached].reverse ++
                    spread accepts ((before || reached) && accepts character)
                      [] text places) ↔
                  IsIn last (spread accepts
                    ((before || reached) && accepts character) [] text
                      places) := by
                simp [IsIn]
              rw [further, ih (by simpa using set)]
              simp only [passesAll_zero_succ, passesAll_succ_succ]
              cases before <;> cases reached <;> simp

theorem computes_spread (text : List Char) (accepts : Char → Bool) :
    Computes text.length (spread accepts false [] text)
      (PassesAll text accepts) := by
  intro places set
  refine ⟨length_spread set false, fun last => ?_⟩
  rw [isIn_spread set]
  simp

end

/-! ## Expressions -/

namespace Expression

section

variable (text : List Char)

mutual

/-- The expression matches the text between two places. -/
def Spans : Expression → Nat → Nat → Prop
  | .empty, first, last => first = last
  | .literal characters, first, last =>
    characters <+: text.drop first ∧ last = first + characters.length
  | .oneOf _ set, first, last =>
    PassesOne text (fun character => set.contains character.toNat) first last
  | .place kind, first, last =>
    (∃ before after, (neighbours text)[first]? = some (before, after) ∧
      kind.holds before after = true) ∧ first = last
  | .repetition least most _ body, first, last =>
    ∃ count, least ≤ count ∧
      (∀ bound, most = some bound → count ≤ max least bound) ∧
      Times (Spans body) count first last
  | .capture _ body, first, last => Spans body first last
  | .sequence items, first, last => SpansInOrder items first last
  | .choice branches, first, last => SpansAny branches first last

/-- The expressions match the text between two places one after the other. -/
def SpansInOrder : List Expression → Nat → Nat → Prop
  | [], first, last => first = last
  | item :: items, first, last =>
    ∃ middle, Spans item first middle ∧ SpansInOrder items middle last

/-- One of the expressions matches the text between two places. -/
def SpansAny : List Expression → Nat → Nat → Prop
  | [], _, _ => False
  | branch :: branches, first, last =>
    Spans branch first last ∨ SpansAny branches first last

end

end

variable {text : List Char} {first last : Nat}

theorem spansAny_iff {branches : List Expression} :
    SpansAny text branches first last ↔
      ∃ branch ∈ branches, Spans text branch first last := by
  induction branches with
  | nil => simp [SpansAny]
  | cons branch rest ih => simp [SpansAny, ih]

mutual

theorem le_of_spans : ∀ (expression : Expression) {first last : Nat},
    Spans text expression first last → first ≤ last
  | .empty, first, last, spans => by
      simp only [Spans] at spans
      omega
  | .literal characters, first, last, spans => by
      simp only [Spans] at spans
      omega
  | .oneOf _ set, first, last, spans => by
      simp only [Spans, PassesOne] at spans
      omega
  | .place kind, first, last, spans => by
      simp only [Spans] at spans
      omega
  | .repetition least most _ body, first, last, spans => by
      simp only [Spans] at spans
      rcases spans with ⟨count, -, -, related⟩
      rcases exists_times_le (fun _ _ => le_of_spans body) related with
        ⟨-, -, ordered, -⟩
      exact ordered
  | .capture _ body, first, last, spans => by
      simp only [Spans] at spans
      exact le_of_spans body spans
  | .sequence items, first, last, spans => by
      simp only [Spans] at spans
      exact le_of_spansInOrder items spans
  | .choice branches, first, last, spans => by
      simp only [Spans] at spans
      exact le_of_spansAny branches spans

theorem le_of_spansInOrder : ∀ (items : List Expression) {first last : Nat},
    SpansInOrder text items first last → first ≤ last
  | [], first, last, spans => by
      simp only [SpansInOrder] at spans
      omega
  | item :: items, first, last, spans => by
      simp only [SpansInOrder] at spans
      rcases spans with ⟨middle, here, later⟩
      exact Nat.le_trans (le_of_spans item here)
        (le_of_spansInOrder items later)

theorem le_of_spansAny : ∀ (branches : List Expression) {first last : Nat},
    SpansAny text branches first last → first ≤ last
  | [], first, last, spans => by
      simp only [SpansAny] at spans
  | branch :: branches, first, last, spans => by
      simp only [SpansAny] at spans
      rcases spans with here | later
      · exact le_of_spans branch here
      · exact le_of_spansAny branches later

end

/-! ## Single characters -/

theorem spans_literal_singleton (character : Char) :
    Spans text (.literal [character]) first last ↔
      PassesOne text (· == character) first last := by
  have here : [character] <+: text.drop first ↔
      text[first]? = some character := by
    rw [← List.head?_drop]
    cases text.drop first <;> simp [eq_comm]
  simp only [Spans, PassesOne, here, List.length_singleton, beq_iff_eq]
  simp

theorem spans_of_test? {expression : Expression} {accepts : Char → Bool}
    (tested : expression.test? = some accepts) :
    Spans text expression first last ↔ PassesOne text accepts first last := by
  unfold test? at tested
  split at tested
  · rcases Option.some.inj tested with rfl
    exact spans_literal_singleton _
  · rcases Option.some.inj tested with rfl
    simp only [Spans]
  · cases tested

/-- An expression with a test for single characters matches one of those that
pass it. -/
theorem spans_of_oneCharacter? : ∀ (expression : Expression)
    {accepts : Char → Bool}, expression.oneCharacter? = some accepts →
      (Spans text expression first last ↔ PassesOne text accepts first last)
  | .capture _ body, accepts, tested => by
      rw [oneCharacter?] at tested
      simp only [Spans]
      exact spans_of_oneCharacter? body tested
  | .choice branches, accepts, tested => by
      rw [oneCharacter?, Option.map_eq_some_iff] at tested
      rcases tested with ⟨tests, each, rfl⟩
      simp only [Spans]
      induction branches generalizing tests with
      | nil =>
          rcases Option.some.inj each with rfl
          simp [SpansAny, PassesOne]
      | cons branch rest ih =>
          simp only [List.mapM_cons, bind, pure, Option.bind_eq_some_iff,
            Option.some.injEq] at each
          rcases each with ⟨first, tested, others, later, rfl⟩
          rw [SpansAny, spans_of_test? tested, ih others later]
          simp [PassesOne, ← or_and_right, ← exists_or, ← and_or_left]
  | .empty, _, tested | .literal _, _, tested | .oneOf _ _, _, tested
  | .place _, _, tested | .repetition _ _ _ _, _, tested
  | .sequence _, _, tested => spans_of_test? tested

/-! ## The ends of a text -/

theorem spans_textStart_iff :
    Spans text (.place .textStart) first last ↔ first = 0 ∧ last = 0 := by
  simp only [Spans, neighbours, List.getElem?_zip_eq_some, Place.holds,
    Option.isNone_iff_eq_none]
  constructor
  · rintro ⟨⟨before, after, ⟨here, -⟩, rfl⟩, rfl⟩
    cases first with
    | zero => exact ⟨rfl, rfl⟩
    | succ first => simp at here
  · rintro ⟨rfl, rfl⟩
    have inside : 0 < (text.map some ++ [none]).length := by simp
    exact ⟨⟨none, _, ⟨rfl, List.getElem?_eq_getElem inside⟩, rfl⟩, rfl⟩

theorem spans_textEnd_iff :
    Spans text (.place .textEnd) first last ↔
      first = text.length ∧ last = text.length := by
  simp only [Spans, neighbours, List.getElem?_zip_eq_some, Place.holds,
    Option.isNone_iff_eq_none]
  constructor
  · rintro ⟨⟨before, after, ⟨-, here⟩, rfl⟩, rfl⟩
    have within := (List.getElem?_eq_some_iff.mp here).1
    simp only [List.length_append, List.length_map, List.length_singleton]
      at within
    rw [List.getElem?_append] at here
    split at here
    · simp at here
    · next outside =>
        rw [List.length_map] at outside
        exact ⟨by omega, by omega⟩
  · rintro ⟨rfl, rfl⟩
    have inside : text.length < (none :: text.map some).length := by simp
    exact ⟨⟨_, none, ⟨List.getElem?_eq_getElem inside, by simp⟩, rfl⟩, rfl⟩

/-! ## The matcher -/

/-- What is left of a text begins with the character that stands there. -/
theorem drop_of_getElem? {character : Char}
    (here : text[first]? = some character) :
    text.drop first = character :: text.drop (first + 1) := by
  obtain ⟨within, rfl⟩ := List.getElem?_eq_some_iff.mp here
  exact List.drop_eq_getElem_cons within

theorem spans_literal_cons {character : Char} {rest : List Char} :
    Spans text (.literal (character :: rest)) first last ↔
      ∃ middle, PassesOne text (· == character) first middle ∧
        Spans text (.literal rest) middle last := by
  simp only [Spans, PassesOne, beq_iff_eq, exists_eq_right]
  cases here : text[first]? with
  | none =>
      have nothing : text.drop first = [] := by
        rw [List.drop_eq_nil_iff]
        exact List.getElem?_eq_none_iff.mp here
      simp [nothing]
  | some found =>
      rw [drop_of_getElem? here, List.cons_prefix_cons]
      constructor
      · rintro ⟨⟨rfl, inside⟩, rfl⟩
        exact ⟨first + 1, ⟨rfl, rfl⟩, inside, by simp; omega⟩
      · rintro ⟨middle, ⟨same, rfl⟩, inside, rfl⟩
        rcases Option.some.inj same with rfl
        exact ⟨⟨rfl, inside⟩, by simp; omega⟩

theorem computes_literal (text characters : List Char) :
    Computes text.length
      (fun places => characters.foldl
        (fun places character => advance text (· == character) places) places)
      (Spans text (.literal characters)) := by
  induction characters with
  | nil =>
      refine computes_id.congr fun first last _ => ?_
      simp [Spans, eq_comm]
  | cons character rest ih =>
      refine ((computes_advance text (· == character)).comp ih).congr
        fun first last _ => ?_
      exact spans_literal_cons.symm

theorem computes_place (text : List Char) (kind : Place) :
    Computes text.length
      (fun places => List.zipWith
        (fun open_ (before, after) => open_ && kind.holds before after) places
          (neighbours text))
      (Spans text (.place kind)) := by
  intro places set
  unfold IsSet at set
  have count : (neighbours text).length = text.length + 1 := by
    simp [neighbours]
  constructor
  · rw [IsSet, List.length_zipWith, set, count, Nat.min_self]
  · intro last
    simp only [IsIn, List.getElem?_zipWith, Spans]
    cases here : places[last]? with
    | none =>
        constructor
        · intro moved
          cases moved
        · rintro ⟨first, inside, -, rfl⟩
          rw [here] at inside
          cases inside
    | some reached =>
        cases there : (neighbours text)[last]? with
        | none =>
            constructor
            · intro moved
              cases moved
            · rintro ⟨first, -, ⟨before, after, found, -⟩, rfl⟩
              rw [there] at found
              cases found
        | some pair =>
            rcases pair with ⟨before, after⟩
            simp [here, there]

/-- A repetition is its least number of steps and then some more, no more than
remain up to the bound. -/
theorem spans_repetition_iff {body : Expression} {least : Nat}
    {most : Option Nat} {greedy : Bool} :
    Spans text (.repetition least most greedy body) first last ↔
      ∃ middle, Times (Spans text body) least first middle ∧
        ∃ steps, (∀ bound, most = some bound → steps ≤ bound - least) ∧
          Times (Spans text body) steps middle last := by
  simp only [Spans]
  constructor
  · rintro ⟨count, enough, few, related⟩
    obtain ⟨steps, rfl⟩ := Nat.exists_eq_add_of_le enough
    rcases (times_add first last).mp related with ⟨middle, begun, later⟩
    refine ⟨middle, begun, steps, fun bound bounded => ?_, later⟩
    have := few bound bounded
    omega
  · rintro ⟨middle, begun, steps, few, later⟩
    refine ⟨least + steps, by omega, fun bound bounded => ?_,
      (times_add first last).mpr ⟨middle, begun, later⟩⟩
    have := few bound bounded
    omega

theorem computes_repetition {body : Expression} {greedy : Bool}
    (once : Computes text.length (ends text body) (Spans text body))
    (least : Nat) (most : Option Nat) :
    Computes text.length
      (fun places =>
        match most with
        | some most =>
          growTimes (ends text body) (most - least)
            (applyTimes (ends text body) least places)
        | none =>
          match body.oneCharacter? with
          | some accepts =>
            spread accepts false [] text
              (applyTimes (ends text body) least places)
          | none =>
            growTimes (ends text body) (text.length + 1)
              (applyTimes (ends text body) least places))
      (Spans text (.repetition least most greedy body)) := by
  have started := once.applyTimes least
  cases most with
  | some bound =>
      refine (started.comp (once.growTimes (bound - least))).congr
        fun first last _ => ?_
      simp [spans_repetition_iff]
  | none =>
      -- However the further steps are taken, any number of them is.
      have further {onward : List Bool → List Bool}
          (all : Computes text.length onward fun first last =>
            ∃ steps, Times (Spans text body) steps first last) :
          Computes text.length
            (fun places => onward (applyTimes (ends text body) least places))
            (Spans text (.repetition least none greedy body)) :=
        (started.comp all).congr fun first last _ => by
          simp [spans_repetition_iff]
      cases tested : body.oneCharacter? with
      | some accepts =>
          refine further ((computes_spread text accepts).congr
            fun first last _ => ?_)
          have same : Spans text body = PassesOne text accepts := by
            funext first last
            exact propext (spans_of_oneCharacter? body tested)
          rw [same, exists_times_passesOne_iff]
      | none =>
          exact further (once.growTimes_all fun _ _ => le_of_spans body)

mutual

/-- The matcher maps a set of places to the places where what the expression
matches from one of them ends. -/
theorem computes_ends (text : List Char) : ∀ expression : Expression,
    Computes text.length (ends text expression) (Spans text expression)
  | .empty => by
      simp only [ends, Spans]
      exact computes_id
  | .literal characters => by
      simp only [ends]
      exact computes_literal text characters
  | .oneOf _ set => by
      simp only [ends, Spans]
      exact computes_advance text _
  | .place kind => by
      simp only [ends]
      exact computes_place text kind
  | .repetition least most _ body => by
      simp only [ends]
      exact computes_repetition (computes_ends text body) least most
  | .capture _ body => by
      simp only [ends, Spans]
      exact computes_ends text body
  | .sequence items => by
      simp only [ends, Spans]
      exact computes_sequenceEnds text items
  | .choice branches => by
      simp only [ends, Spans]
      exact computes_choiceEnds text branches

theorem computes_sequenceEnds (text : List Char) :
    ∀ items : List Expression,
      Computes text.length (sequenceEnds text items) (SpansInOrder text items)
  | [] => by
      simp only [sequenceEnds, SpansInOrder]
      exact computes_id
  | item :: items => by
      simp only [sequenceEnds, SpansInOrder]
      exact (computes_ends text item).comp (computes_sequenceEnds text items)

theorem computes_choiceEnds (text : List Char) :
    ∀ branches : List Expression,
      Computes text.length (choiceEnds text branches) (SpansAny text branches)
  | [] => by
      intro places set
      simp only [choiceEnds, SpansAny, IsIn, List.getElem?_map,
        Option.map_eq_some_iff, Bool.false_eq_true, and_false, exists_false,
        implies_true, and_true]
      simpa only [IsSet, List.length_map] using set
  | branch :: branches => by
      simp only [choiceEnds, SpansAny]
      exact (computes_ends text branch).unite
        (computes_choiceEnds text branches)

end

/-- An expression occurs in a text if it matches the text between two of its
places. -/
theorem occursIn_iff (expression : Expression) (text : String) :
    expression.occursIn text = true ↔
      ∃ first last, first ≤ text.toList.length ∧
        Spans text.toList expression first last := by
  let everywhere := List.replicate (text.toList.length + 1) true
  have set : IsSet text.toList.length everywhere := List.length_replicate
  have inside (place : Nat) :
      IsIn place everywhere ↔ place ≤ text.toList.length := by
    rw [IsIn, List.getElem?_replicate, Option.ite_none_right_eq_some,
      Nat.lt_succ_iff]
    exact and_iff_left rfl
  rcases computes_ends text.toList expression everywhere set with ⟨-, found⟩
  have reached : expression.occursIn text = true ↔
      ∃ last, IsIn last (ends text.toList expression everywhere) := by
    simp only [occursIn, List.any_eq_true, id, exists_eq_right, IsIn]
    exact List.mem_iff_getElem?
  rw [reached, exists_comm]
  simp only [found, inside]

end Expression

end DocQuery.Pattern
