import DocQuery.Number.Layout
import DocQuery.Number.Reading

/-!
# Decimal floating-point numbers

A decimal number of up to 34 digits keeps its digits and its exponent apart,
so `1.5` and `1.50` are different numbers.  A text with more digits, or with
an exponent out of range, is read only if nothing but zeros has to be dropped
or added.  No digits at all stand for zero, and the digits may have a plus
sign of their own after any zeros.
-/

namespace DocQuery

/-- A decimal number of at most 34 digits. -/
inductive Decimal128 where
  /-- Not a number, with a sign and a mark that are not written. -/
  | nan (negative signalling : Bool)
  /-- An infinity of a sign. -/
  | infinite (negative : Bool)
  /-- The number `± digits * 10 ^ exponent`. -/
  | finite (negative : Bool) (digits : Nat) (exponent : Int)
  deriving DecidableEq, Repr, Inhabited

namespace Decimal128

open Text

/-- The greatest count of digits. -/
def precision : Nat := 34

/-- The least exponent of the last digit. -/
def leastExponent : Int := -6176

/-- The greatest exponent of the last digit. -/
def greatestExponent : Int := 6111

/-- The digits without their last `surplus` ones, which must be zeros. -/
def dropTrailing? (surplus : Nat) (digits : List Char) : Option (List Char) :=
  let kept := digits.length - surplus
  if (digits.drop kept).all (· == '0') then
    some (digits.take kept)
  else
    none

/-- Fit digits without leading zeros into the precision. -/
def fitDigits? (digits : List Char) (exponent : Int) :
    Option (List Char × Int) :=
  if precision < digits.length then
    let surplus := digits.length - precision
    (dropTrailing? surplus digits).map fun kept => (kept, exponent + surplus)
  else
    some (digits, exponent)

/-- Fit an exponent into its range by dropping or adding zeros. -/
def fitExponent? (digits : List Char) (exponent : Int) :
    Option (List Char × Int) :=
  if exponent < leastExponent then
    if digits = [] then
      some ([], leastExponent)
    else
      let surplus := (leastExponent - exponent).toNat
      if digits.length < surplus then
        none
      else
        (dropTrailing? surplus digits).map fun kept => (kept, leastExponent)
  else if greatestExponent < exponent then
    if digits = [] then
      some ([], greatestExponent)
    else
      let missing := (exponent - greatestExponent).toNat
      if precision < digits.length + missing then
        none
      else
        some (digits ++ Layout.zeros missing, greatestExponent)
  else
    some (digits, exponent)

/-- The digits before the exponent mark, and the exponent. -/
def splitExponent? (characters : List Char) : Option (List Char × Int) :=
  let digits := characters.takeWhile (· != 'e')
  match characters.drop digits.length with
  | [] => some (digits, 0)
  | _ :: rest => (integer? rest).map fun exponent => (digits, exponent)

/-- The number that digits stand for, with a plus sign or without. -/
def coefficient? : List Char → Option Nat
  | [] => some 0
  | '+' :: digits => Text.decimal? digits
  | digits => Text.decimal? digits

/-- A finite number in lower case without its sign. -/
def finite? (negative : Bool) (characters : List Char) : Option Decimal128 := do
  let (body, exponent) ← splitExponent? characters
  let whole := body.takeWhile (· != '.')
  let places := (body.drop whole.length).drop 1
  let digits := (whole ++ places).dropWhile (· == '0')
  let (digits, exponent) ← fitDigits? digits (exponent - places.length)
  let (digits, exponent) ← fitExponent? digits exponent
  let value ← coefficient? digits
  some (.finite negative value exponent)

/-- A number in lower case without its sign. -/
def unsigned? (negative : Bool) (characters : List Char) : Option Decimal128 :=
  if characters = "nan".toList then
    some (.nan negative false)
  else if characters = "snan".toList then
    some (.nan negative true)
  else if characters = "inf".toList ∨ characters = "infinity".toList then
    some (.infinite negative)
  else
    finite? negative characters

/-- Read a decimal number that fills a whole text. -/
def parse? (text : String) : Option Decimal128 :=
  match text.toList.map Char.toLower with
  | '-' :: rest => unsigned? true rest
  | '+' :: rest => unsigned? false rest
  | characters => unsigned? false characters

/-- The number of 16 bytes, the last of which is the highest.  The sign comes
first; then either the exponent and the digits, or a mark for infinity or NaN.
A form whose digits would be too many stands for zero. -/
def ofBytes? (bytes : List Nat) : Option Decimal128 :=
  if bytes.length = 16 then
    let bits := bytes.foldr (fun byte rest => byte + 256 * rest) 0
    let negative := bits.testBit 127
    if bits >>> 123 % 16 = 15 then
      if bits.testBit 122 then some (.nan negative (bits.testBit 121))
      else some (.infinite negative)
    else if bits >>> 125 % 4 = 3 then
      some (.finite negative 0 ((bits >>> 111 % 0x4000 : Nat) + leastExponent))
    else
      some (.finite negative (bits % Nat.pow 2 113)
        ((bits >>> 113 % 0x4000 : Nat) + leastExponent))
  else
    none

/-- The text of a finite magnitude: positional when the exponent is not above
zero and the first digit is at most six places after the point. -/
def magnitudeText (digits : Nat) (exponent : Int) : List Char :=
  let written := Layout.digitsOf digits
  let leading := Layout.leadingExponent written exponent
  if exponent ≤ 0 ∧ -6 ≤ leading then
    Layout.positional written exponent
  else
    Layout.mantissa written ++ 'E' :: Layout.signed leading

/-- The text of a decimal number. -/
def toText : Decimal128 → String
  | .nan _ _ => "NaN"
  | .infinite true => "-Infinity"
  | .infinite false => "Infinity"
  | .finite negative digits exponent =>
    let magnitude := magnitudeText digits exponent
    String.ofList (if negative then '-' :: magnitude else magnitude)

/-- The nearest binary number. -/
def toBinary64 : Decimal128 → Binary64
  | .nan _ _ => .quietNaN false
  | .infinite negative => .infinity negative
  | .finite negative digits exponent =>
    .ofDecimal negative digits (Shortest.digitCount digits) exponent

example : (parse? "1.50").map toText = some "1.50" := by decide +kernel
example : (parse? ".+5").map toText = some "0.05" := by decide +kernel
example : (ofBytes? [5, 0, 0, 0, 0, 0, 0, 0, 0, 0, 0, 0, 0, 0, 64, 0xB0]).map
    toText = some "-5" := by decide +kernel
example : (parse? "1E3").map toText = some "1E+3" := by decide +kernel
example : (parse? "0.0000001").map toText = some "1E-7" := by decide +kernel

end Decimal128

end DocQuery
