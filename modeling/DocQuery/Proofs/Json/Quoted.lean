import DocQuery.Json.Tree
import DocQuery.Json.Writer
import Mathlib.Tactic.SplitIfs

/-!
# Strings in JSON texts

A string is written character by character, and what is written for each
character is read as this character: a letter that stands for it after a
backslash, four hexadecimal digits, or the character itself.  No character is
half of a surrogate pair, so what is read is a text, and it is the one that
was written.
-/

namespace DocQuery.Json

open Text

/-! ## One character -/

/-- The four digits of an escaped control character. -/
theorem exists_hexDigits {value : Nat} (small : value < 32) :
    ∃ first second third fourth,
      hexDigits 4 value = [first, second, third, fourth] ∧
        hexadecimal? [first, second, third, fourth] = some value := by
  have read : hexadecimal? (hexDigits 4 value) = some value := by
    revert value
    decide
  exact ⟨_, _, _, _, rfl, read⟩

/-- No character is half of a surrogate pair. -/
theorem toNat_aside (character : Char) :
    character.toNat < 0xD800 ∨ 0xDFFF < character.toNat :=
  character.valid.imp_right And.left

theorem isTrailing_toNat (character : Char) :
    isTrailing character.toNat = false := by
  have aside := toNat_aside character
  simp only [isTrailing, Bool.and_eq_false_imp, decide_eq_true_eq,
    decide_eq_false_iff_not]
  omega

theorem isLeading_toNat (character : Char) :
    isLeading character.toNat = false := by
  have aside := toNat_aside character
  simp only [isLeading, Bool.and_eq_false_imp, decide_eq_true_eq,
    decide_eq_false_iff_not]
  omega

/-- A character that stands for itself is read as such. -/
theorem quotedFrom?_plain (hasControl : Bool) (read : List Nat)
    {character : Char} (noQuote : character ≠ '"')
    (noEscape : character ≠ '\\') (rest : List Char) :
    quotedFrom? hasControl read (character :: rest) =
      quotedFrom? (hasControl || character.toNat < 0x20)
        (character.toNat :: read) rest := by
  rw [quotedFrom?.eq_def]
  split <;> simp_all

/-- What is written for a character is read as this character. -/
theorem quotedFrom?_escape (hasControl : Bool) (read : List Nat)
    (character : Char) (rest : List Char) :
    quotedFrom? hasControl read (escape character ++ rest) =
      quotedFrom? hasControl (character.toNat :: read) rest := by
  unfold escape
  split_ifs with quote backslash backspace feed newline carriage tab control
  · rw [quote]
    rfl
  · rw [backslash]
    rfl
  · rw [backspace]
    rfl
  · rw [feed]
    rfl
  · rw [newline]
    rfl
  · rw [carriage]
    rfl
  · rw [tab]
    rfl
  · rcases exists_hexDigits control with
      ⟨first, second, third, fourth, digits, value⟩
    rw [digits]
    show quotedFrom? hasControl read
      ('\\' :: 'u' :: first :: second :: third :: fourth :: rest) = _
    rw [quotedFrom?]
    simp only [value, pushCode_of_not_trailing _ (isTrailing_toNat character)]
  · rw [List.singleton_append, quotedFrom?_plain _ _ quote backslash]
    simp [control]

/-! ## Whole strings -/

/-- The characters of a string are read one after the other. -/
theorem quotedFrom?_flatMap_escape (characters : List Char)
    (read : List Nat) (rest : List Char) :
    quotedFrom? false read (characters.flatMap escape ++ '"' :: rest) =
      some (⟨read.reverse ++ characters.map Char.toNat, false⟩, rest) := by
  induction characters generalizing read with
  | nil => simp [quotedFrom?]
  | cons character others ih =>
      rw [List.flatMap_cons, List.append_assoc, quotedFrom?_escape, ih]
      simp

/-- A string that is written is read as the text that it was. -/
theorem quoted?_escape (text : String) (rest : List Char) :
    quoted? (text.toList.flatMap escape ++ '"' :: rest) =
      some (⟨text.toList.map Char.toNat, false⟩, rest) :=
  quotedFrom?_flatMap_escape text.toList [] rest

/-- Characters make a text. -/
theorem text?_map_toNat (text : String) :
    Quoted.text? ⟨text.toList.map Char.toNat, false⟩ = some text := by
  have whole : (text.toList.map Char.toNat).any (fun code =>
      isLeading code || isTrailing code) = false := by
    simp [isLeading_toNat, isTrailing_toNat]
  have back : (text.toList.map Char.toNat).map Char.ofNat = text.toList := by
    simp [Function.comp_def]
  simp only [Quoted.text?, whole, Bool.or_false, Bool.false_eq_true, if_false,
    back, String.ofList_toList]

end DocQuery.Json
