/-!
# Base 64

The standard alphabet with `=` padding.  Reading is strict: the length is a
multiple of four, padding stands at the end only, and the bits that padding
leaves unused are zero.
-/

namespace DocQuery.Text.Base64

/-- The character that stands for a group of six bits. -/
def symbol (value : Nat) : Char :=
  if value < 26 then Char.ofNat ('A'.toNat + value)
  else if value < 52 then Char.ofNat ('a'.toNat + (value - 26))
  else if value < 62 then Char.ofNat ('0'.toNat + (value - 52))
  else if value = 62 then '+'
  else '/'

/-- The six bits that a character stands for. -/
def value? (character : Char) : Option Nat :=
  if 'A' ≤ character ∧ character ≤ 'Z' then
    some (character.toNat - 'A'.toNat)
  else if 'a' ≤ character ∧ character ≤ 'z' then
    some (character.toNat - 'a'.toNat + 26)
  else if '0' ≤ character ∧ character ≤ '9' then
    some (character.toNat - '0'.toNat + 52)
  else if character = '+' then some 62
  else if character = '/' then some 63
  else none

/-- Write bytes, three at a time. -/
def encode : List UInt8 → List Char
  | [] => []
  | [first] =>
    [symbol (first.toNat / 4), symbol (first.toNat % 4 * 16), '=', '=']
  | [first, second] =>
    [symbol (first.toNat / 4),
      symbol (first.toNat % 4 * 16 + second.toNat / 16),
      symbol (second.toNat % 16 * 4), '=']
  | first :: second :: third :: rest =>
    symbol (first.toNat / 4) ::
      symbol (first.toNat % 4 * 16 + second.toNat / 16) ::
      symbol (second.toNat % 16 * 4 + third.toNat / 64) ::
      symbol (third.toNat % 64) :: encode rest

/-- Read groups of four characters; padding ends the text. -/
def decode? : List Char → Option (List UInt8)
  | [] => some []
  | [first, second, '=', '='] => do
    let high ← value? first
    let low ← value? second
    if low % 16 = 0 then some [UInt8.ofNat (high * 4 + low / 16)] else none
  | [first, second, third, '='] => do
    let high ← value? first
    let middle ← value? second
    let low ← value? third
    if low % 4 = 0 then
      some [UInt8.ofNat (high * 4 + middle / 16),
        UInt8.ofNat (middle % 16 * 16 + low / 4)]
    else
      none
  | first :: second :: third :: fourth :: rest => do
    let a ← value? first
    let b ← value? second
    let c ← value? third
    let d ← value? fourth
    let bytes ← decode? rest
    some (UInt8.ofNat (a * 4 + b / 16) ::
      UInt8.ofNat (b % 16 * 16 + c / 4) ::
      UInt8.ofNat (c % 4 * 64 + d) :: bytes)
  | _ => none

end DocQuery.Text.Base64
