import DocQuery.Json.Tree
import DocQuery.Number.Rounding
import DocQuery.Text.Digits

/-!
# JSON numbers

The digits of a number are read into a significand of 64 bits; digits that no
longer fit are dropped and only counted.  A number with a fraction, an exponent
or dropped digits is the significand, rounded, times or divided by a power of
ten, rounded again.
-/

namespace DocQuery.Json

open Text

/-- The greatest significand. -/
def maxSignificand : Nat := 0xFFFFFFFFFFFFFFFF

/-- Read digits into a significand as long as they fit, and the count of those
read. -/
def significandFrom (value count : Nat) : List Char → Nat × Nat
  | [] => (value, count)
  | character :: rest =>
    let next := value * 10 + (digit? character).getD 0
    if next ≤ maxSignificand then significandFrom next (count + 1) rest
    else (value, count)

/-- The greatest power of ten in the table of powers. -/
def maxPower : Nat := 308

/-- A power of ten, rounded. -/
def powerOfTen (exponent : Nat) : Binary64 := .ofRatio false (Nat.pow 10 exponent) 1

/-- Scale a number by a power of ten.  A large negative exponent is applied in
steps; `fuel` bounds their count. -/
def scale? : Nat → Binary64 → Int → Option Binary64
  | 0, number, _ => some number
  | fuel + 1, number, exponent =>
    if exponent.natAbs ≤ maxPower then
      if 0 ≤ exponent then
        let scaled := number.mulFinite (powerOfTen exponent.natAbs)
        if scaled.isInfinite then none else some scaled
      else
        some (number.divFinite (powerOfTen exponent.natAbs))
    else if number.isZero then
      some number
    else if 0 ≤ exponent then
      none
    else
      scale? fuel (number.divFinite (powerOfTen maxPower)) (exponent + maxPower)

/-- The number with a significand and a decimal exponent. -/
def ofParts (negative : Bool) (significand : Nat) (exponent : Int) : Json :=
  match scale? 8 (.ofInt significand) exponent with
  | none => .outOfRange
  | some number => .real (if negative then number.opposite else number)

/-- An integer whose digits all fit.  Minus zero is no integer. -/
def ofInteger (negative : Bool) (significand : Nat) : Json :=
  if negative then
    if significand = 0 ∨ 0x8000000000000000 < significand then
      .real (Binary64.ofInt significand).opposite
    else
      .negative (-(significand : Int))
  else
    .natural significand

/-- The sign and digits of an exponent, `none` inside when there is no
exponent here. -/
def exponent? : List Char → Option (Option Int × List Char)
  | mark :: rest =>
    if mark = 'e' ∨ mark = 'E' then
      let (minus, digits) :=
        match rest with
        | '-' :: others => (true, others)
        | '+' :: others => (false, others)
        | others => (false, others)
      let (found, last) := spanDigits digits
      (decimal? found).map fun value =>
        (some (if minus then -(value : Int) else value), last)
    else
      some (none, mark :: rest)
  | [] => some (none, [])

/-- The number with a significand, an exponent that stems from its digits, and
a written exponent.  A written exponent beyond 32 bits decides alone. -/
def ofExponent (negative : Bool) (significand : Nat) (start written : Int) :
    Json :=
  if 0x80000000 ≤ written then
    if significand = 0 then .real (.zero negative) else .outOfRange
  else if written ≤ -0x80000000 then
    .real (.zero negative)
  else
    ofParts negative significand (start + written)

/-- Read a number without its sign. -/
def number? (negative : Bool) (characters : List Char) :
    Option (Json × List Char) :=
  let (whole, rest) := spanDigits characters
  if whole = [] ∨ (whole.head? = some '0' ∧ 1 < whole.length) then
    none
  else
    let (significand, count) := significandFrom 0 0 whole
    let dropped : Int := whole.length - count
    match rest with
    | '.' :: others =>
      let (places, last) := spanDigits others
      if places = [] then
        none
      else
        let (significand, count) := significandFrom significand 0 places
        (exponent? last).map fun (written, last) =>
          (ofExponent negative significand (dropped - count) (written.getD 0),
            last)
    | _ =>
      (exponent? rest).map fun (written, last) =>
        match written with
        | some written =>
          (ofExponent negative significand dropped written, last)
        | none =>
          if dropped = 0 then (ofInteger negative significand, last)
          else (ofParts negative significand dropped, last)

end DocQuery.Json
