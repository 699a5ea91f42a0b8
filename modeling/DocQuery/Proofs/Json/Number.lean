import DocQuery.Json.Parser
import DocQuery.Number.Layout

/-!
# Integers in JSON texts

The digits of a natural number are read as this number.  They are all digits,
so reading takes the whole of them and stops where no digit follows, and they
do not begin with a zero unless the number is zero.  An integer that is read
in this way keeps its sign.
-/

namespace DocQuery

namespace Text

theorem digit?_of_isDigit {character : Char}
    (digit : character.isDigit = true) :
    digit? character = some (character.toNat - '0'.toNat) := by
  have bounds : '0' ≤ character ∧ character ≤ '9' := by
    simp only [Char.isDigit, Bool.and_eq_true, decide_eq_true_eq] at digit
    exact digit
  rw [digit?, if_pos bounds]

/-- What is no digit differs from every digit. -/
theorem ne_of_isDigit {character other : Char}
    (digit : character.isDigit = true) (notDigit : other.isDigit = false) :
    character ≠ other := by
  rintro rfl
  exact Bool.noConfusion (digit.symm.trans notDigit)

theorem isDigit_of_isDigit {character : Char}
    (digit : character.isDigit = true) : isDigit character = true := by
  rw [isDigit, digit?_of_isDigit digit]
  rfl

/-- A run of digits that no digit follows is cut off as a whole. -/
theorem spanDigits_of_digits {digits rest : List Char}
    (all : ∀ character ∈ digits, character.isDigit = true)
    (ends : ∀ character ∈ rest.head?, isDigit character = false) :
    spanDigits (digits ++ rest) = (digits, rest) := by
  have taken : rest.takeWhile isDigit = [] ∧ rest.dropWhile isDigit = rest := by
    cases rest with
    | nil => exact ⟨rfl, rfl⟩
    | cons first others =>
        have notDigit := ends first rfl
        simp [notDigit]
  have inside (character : Char) (member : character ∈ digits) :
      isDigit character = true :=
    isDigit_of_isDigit (all character member)
  rw [spanDigits, List.takeWhile_append_of_pos inside,
    List.dropWhile_append_of_pos inside, taken.1, taken.2, List.append_nil]

end Text

namespace Json

open Text

/-! ## Significands -/

theorem le_ofDigitChars (digits : List Char) (value : Nat) :
    value ≤ Nat.ofDigitChars 10 digits value := by
  induction digits generalizing value with
  | nil => exact Nat.le_of_eq Nat.ofDigitChars_nil.symm
  | cons digit rest ih =>
      rw [Nat.ofDigitChars_cons]
      exact Nat.le_trans (by omega) (ih _)

/-- Digits that fit are all read. -/
theorem significandFrom_of_le {digits : List Char} {value : Nat}
    (all : ∀ character ∈ digits, character.isDigit = true)
    (fits : Nat.ofDigitChars 10 digits value ≤ maxSignificand)
    (count : Nat) :
    significandFrom value count digits =
      (Nat.ofDigitChars 10 digits value, count + digits.length) := by
  induction digits generalizing value count with
  | nil => simp [significandFrom]
  | cons digit rest ih =>
      rw [Nat.ofDigitChars_cons] at fits ⊢
      have next : value * 10 + (digit? digit).getD 0 =
          10 * value + (digit.toNat - '0'.toNat) := by
        rw [digit?_of_isDigit (all digit List.mem_cons_self),
          Option.getD_some, Nat.mul_comm]
      have inBounds := Nat.le_trans (le_ofDigitChars rest _) fits
      rw [significandFrom, next]
      simp only [if_pos inBounds]
      rw [ih (fun other member => all other (List.mem_cons_of_mem _ member))
        fits, List.length_cons]
      congr 1
      omega

/-! ## Numbers -/

/-- Only zero begins with a zero. -/
theorem eq_zero_of_head?_toDigits {value : Nat}
    (leading : (Nat.toDigits 10 value).head? = some '0') : value = 0 := by
  induction value using Nat.base_induction 10 (by decide) with
  | single value small =>
      rw [Nat.toDigits_of_lt_base small] at leading
      simpa using leading
  | digit value last below positive ih =>
      rcases List.exists_cons_of_ne_nil
        (Nat.toDigits_ne_nil : Nat.toDigits 10 value ≠ []) with
        ⟨first, others, digits⟩
      rw [← Nat.toDigits_append_toDigits (by decide) positive below,
        digits] at leading
      rw [digits] at ih
      exact absurd (ih leading) (Nat.ne_of_gt positive)

/-- A number has a first digit. -/
theorem exists_digitsOf (value : Nat) :
    ∃ first others, Layout.digitsOf value = first :: others ∧
      first.isDigit = true := by
  rcases List.exists_cons_of_ne_nil
    (Nat.toDigits_ne_nil : Nat.toDigits 10 value ≠ []) with
    ⟨first, others, digits⟩
  exact ⟨first, others, digits, Nat.isDigit_of_mem_toDigits (by decide)
    (by decide) (digits ▸ List.mem_cons_self)⟩

/-- What follows a number does not go on with it. -/
def EndsNumber (rest : List Char) : Prop :=
  ∀ character ∈ rest.head?, isDigit character = false ∧ character ≠ '.' ∧
    character ≠ 'e' ∧ character ≠ 'E'

theorem endsNumber_cons {first : Char}
    (ends : isDigit first = false ∧ first ≠ '.' ∧ first ≠ 'e' ∧ first ≠ 'E')
    (others : List Char) : EndsNumber (first :: others) := by
  intro character member
  rcases Option.some.inj member with rfl
  exact ends

/-- The digits of a number that fits are read as this number. -/
theorem number?_digitsOf {value : Nat} (fits : value ≤ maxSignificand)
    {rest : List Char} (ends : EndsNumber rest) (negative : Bool) :
    number? negative (Layout.digitsOf value ++ rest) =
      some (ofInteger negative value, rest) := by
  have all (character : Char) (member : character ∈ Nat.toDigits 10 value) :
      character.isDigit = true :=
    Nat.isDigit_of_mem_toDigits (by decide) (by decide) member
  have plain : ¬(Nat.toDigits 10 value = [] ∨
      (Nat.toDigits 10 value).head? = some '0' ∧
        1 < (Nat.toDigits 10 value).length) := by
    rintro (empty | ⟨leading, long⟩)
    · exact Nat.toDigits_ne_nil empty
    · rw [eq_zero_of_head?_toDigits leading, Nat.toDigits_zero] at long
      exact absurd long (by decide)
  have whole : Nat.ofDigitChars 10 (Nat.toDigits 10 value) 0 = value :=
    Nat.ofDigitChars_ten_toDigits
  have read := significandFrom_of_le all (whole ▸ fits) 0
  rw [whole] at read
  have noExponent : exponent? rest = some (none, rest) := by
    cases rest with
    | nil => rfl
    | cons first others =>
        have follows := ends first rfl
        simp [exponent?, follows]
  unfold number?
  rw [Layout.digitsOf, spanDigits_of_digits all
    fun character member => (ends character member).1]
  simp only [if_neg plain, read, Nat.zero_add, Int.sub_self]
  split
  · next others =>
      exact absurd rfl (ends '.' rfl).2.1
  · simp [noExponent]

end Json

end DocQuery
