/-!
# Digits

Decimal and hexadecimal digits: the value of a digit, of a run of digits, and
the digits of a number.
-/

namespace DocQuery.Text

/-- The value of an ASCII decimal digit. -/
def digit? (character : Char) : Option Nat :=
  if '0' ≤ character ∧ character ≤ '9' then
    some (character.toNat - '0'.toNat)
  else
    none

/-- An ASCII decimal digit. -/
def isDigit (character : Char) : Bool := (digit? character).isSome

/-- The value of an ASCII hexadecimal digit, in either case. -/
def hexDigit? (character : Char) : Option Nat :=
  if '0' ≤ character ∧ character ≤ '9' then
    some (character.toNat - '0'.toNat)
  else if 'a' ≤ character ∧ character ≤ 'f' then
    some (character.toNat - 'a'.toNat + 10)
  else if 'A' ≤ character ∧ character ≤ 'F' then
    some (character.toNat - 'A'.toNat + 10)
  else
    none

/-- The value of a run of decimal digits after the digits read so far. -/
def decimalFrom (value : Nat) : List Char → Option Nat
  | [] => some value
  | character :: rest => do
    let digit ← digit? character
    decimalFrom (value * 10 + digit) rest

/-- The value of a nonempty run of decimal digits. -/
def decimal? : List Char → Option Nat
  | [] => none
  | characters => decimalFrom 0 characters

/-- The value of a run of hexadecimal digits after the digits read so far. -/
def hexadecimalFrom (value : Nat) : List Char → Option Nat
  | [] => some value
  | character :: rest => do
    let digit ← hexDigit? character
    hexadecimalFrom (value * 16 + digit) rest

/-- The value of a nonempty run of hexadecimal digits. -/
def hexadecimal? : List Char → Option Nat
  | [] => none
  | characters => hexadecimalFrom 0 characters

/-- The longest leading run of decimal digits, and what follows it. -/
def spanDigits (characters : List Char) : List Char × List Char :=
  (characters.takeWhile isDigit, characters.dropWhile isDigit)

/-- An integer: an optional sign and a nonempty run of digits. -/
def integer? : List Char → Option Int
  | '-' :: digits => (decimal? digits).map fun value => -(value : Int)
  | '+' :: digits => (decimal? digits).map fun value => (value : Int)
  | digits => (decimal? digits).map fun value => (value : Int)

/-- The lower-case hexadecimal digit of a value below sixteen. -/
def hexDigit (value : Nat) : Char :=
  if value < 10 then
    Char.ofNat ('0'.toNat + value)
  else
    Char.ofNat ('a'.toNat + (value - 10))

/-- The lowest `count` hexadecimal digits of `value`, highest first. -/
def hexDigits : Nat → Nat → List Char
  | 0, _ => []
  | count + 1, value => hexDigits count (value / 16) ++ [hexDigit (value % 16)]

/-- The two hexadecimal digits of every byte. -/
def hexOfBytes (bytes : List UInt8) : List Char :=
  bytes.flatMap fun byte => hexDigits 2 byte.toNat

/-- The bytes written by pairs of hexadecimal digits. -/
def bytesOfHex? : List Char → Option (List UInt8)
  | [] => some []
  | [_] => none
  | high :: low :: rest => do
    let upper ← hexDigit? high
    let lower ← hexDigit? low
    let bytes ← bytesOfHex? rest
    some (UInt8.ofNat (upper * 16 + lower) :: bytes)

@[simp]
theorem length_hexDigits (count value : Nat) :
    (hexDigits count value).length = count := by
  induction count generalizing value with
  | zero => rfl
  | succ count ih => simp [hexDigits, ih]

end DocQuery.Text
