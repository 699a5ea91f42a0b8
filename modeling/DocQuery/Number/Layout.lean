import DocQuery.Number.Shortest

/-!
# Layout of decimal digits

Two ways of writing `digits * 10 ^ exponent`: positionally, with as many zeros
as the place of the decimal point asks for, and with a power of ten after one
leading digit.
-/

namespace DocQuery.Layout

/-- The digits of a natural number. -/
def digitsOf (value : Nat) : List Char := Nat.toDigits 10 value

/-- An integer in decimal. -/
def integer (value : Int) : List Char :=
  if value < 0 then '-' :: digitsOf value.natAbs else digitsOf value.natAbs

/-- `count` zeros. -/
def zeros (count : Nat) : List Char := List.replicate count '0'

/-- Write a decimal positionally.  A whole number gets no decimal point. -/
def positional (digits : List Char) (exponent : Int) : List Char :=
  if 0 ≤ exponent then
    digits ++ zeros exponent.toNat
  else
    let places := (-exponent).toNat
    if digits.length ≤ places then
      '0' :: '.' :: (zeros (places - digits.length) ++ digits)
    else
      let whole := digits.length - places
      digits.take whole ++ '.' :: digits.drop whole

/-- Write the digits with the point after the first one. -/
def mantissa (digits : List Char) : List Char :=
  match digits with
  | [] => []
  | [digit] => [digit]
  | first :: rest => first :: '.' :: rest

/-- An integer with its sign, also when it is not negative. -/
def signed (value : Int) : List Char :=
  if value < 0 then '-' :: digitsOf value.natAbs
  else '+' :: digitsOf value.natAbs

/-- The decimal exponent of the first digit. -/
def leadingExponent (digits : List Char) (exponent : Int) : Int :=
  exponent + digits.length - 1

example : positional ['1', '2'] (-3) = ['0', '.', '0', '1', '2'] := by decide
example : positional ['1', '2'] (-1) = ['1', '.', '2'] := by decide

end DocQuery.Layout
