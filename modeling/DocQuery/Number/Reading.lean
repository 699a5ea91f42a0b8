import DocQuery.Number.Rounding
import DocQuery.Text.Digits

/-!
# Numbers in a text

Reading a 64-bit integer or a double-precision number that fills a whole
text.  A floating-point text has an optional sign and is a word for infinity
or NaN in any case, or digits with at most one decimal point among them and
an optional exponent.
-/

namespace DocQuery.Number

open Text

/-- The integers of 64 bits with a sign. -/
def inInt64Range (value : Int) : Bool :=
  decide (-0x8000000000000000 ≤ value ∧ value < 0x8000000000000000)

/-- The integers of 32 bits with a sign. -/
def inInt32Range (value : Int) : Bool :=
  decide (-0x80000000 ≤ value ∧ value < 0x80000000)

/-- A 64-bit integer: an optional sign and decimal digits. -/
def int64? (characters : List Char) : Option Int64 := do
  let value ← integer? characters
  if inInt64Range value then some (Int64.ofInt value) else none

/-- A 32-bit integer: an optional sign and decimal digits. -/
def int32? (characters : List Char) : Option Int32 := do
  let value ← integer? characters
  if inInt32Range value then some (Int32.ofInt value) else none

/-- The exponent part of a number, `0` when the text ends here. -/
def exponent? : List Char → Option Int
  | [] => some 0
  | mark :: rest => if mark.toLower = 'e' then integer? rest else none

/-- The digits before and after the decimal point, and the exponent part. -/
def decimalParts (characters : List Char) : List Char × List Char × List Char :=
  let (whole, rest) := spanDigits characters
  match rest with
  | '.' :: others =>
    let (places, last) := spanDigits others
    (whole, places, last)
  | _ => (whole, [], rest)

/-- A decimal number without sign. -/
def unsigned? (negative : Bool) (characters : List Char) : Option Binary64 := do
  let (whole, places, rest) := decimalParts characters
  let digits ← decimal? (whole ++ places)
  let exponent ← exponent? rest
  let count := ((whole ++ places).dropWhile (· == '0')).length
  some (.ofDecimal negative digits count (exponent - places.length))

/-- The magnitude of a number: a word or a decimal. -/
def magnitude? (negative : Bool) (characters : List Char) : Option Binary64 :=
  let word := characters.map Char.toLower
  if word = "inf".toList ∨ word = "infinity".toList then
    some (.infinity negative)
  else if word = "nan".toList then
    some (.quietNaN negative)
  else
    unsigned? negative characters

/-- A double-precision number: an optional sign and a magnitude. -/
def binary64? : List Char → Option Binary64
  | '-' :: rest => magnitude? true rest
  | '+' :: rest => magnitude? false rest
  | characters => magnitude? false characters

example : binary64? "-.5e1".toList = some ⟨0xC014000000000000⟩ := by
  decide +kernel
example : binary64? "1_0".toList = none := by decide +kernel

end DocQuery.Number
