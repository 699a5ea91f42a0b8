import DocQuery.Text.Blank
import DocQuery.Value

/-!
# Numbers in values

The double-precision number nearest to a numeric value, and the lenient
reading of an integer from a value that looks like one.
-/

namespace DocQuery

/-- The integer part of a number that lies strictly between `-2 ^ 63` and
`2 ^ 63`. -/
def Binary64.toInt64? (number : Binary64) : Option Int64 :=
  if number.isFinite &&
      number.lt (.ofInt 0x8000000000000000) &&
      (Binary64.ofInt (-0x8000000000000000)).lt number then
    number.truncate?.map Int64.ofInt
  else
    none

/-- The nearest 64-bit integer. -/
def clampToInt64 (value : Int) : Int64 :=
  Int64.ofInt (max (-0x8000000000000000) (min value 0x7FFFFFFFFFFFFFFF))

namespace Value

/-- The time some seconds after 1970, or the nearest that can be written. -/
def ofSeconds (seconds : Int64) : Value :=
  .dateTime (clampToInt64 (seconds.toInt * 1000))

/-- The nearest double-precision number, for numeric kinds only. -/
def toBinary64? : Value → Option Binary64
  | .int32 number => some (.ofInt number.toInt)
  | .int64 number => some (.ofInt number.toInt)
  | .double number => some number
  | .decimal number => some number.toBinary64
  | _ => none

/-- The integer in a text without its blank margin: an integer itself, or the
integer part of a number. -/
def integerOfText? (text : String) : Option Int64 :=
  let characters := Text.trimBlank text.toList
  match Number.int64? characters with
  | some value => some value
  | none => (Number.binary64? characters).bind Binary64.toInt64?

/-- The integer that a value is, is cut to, or spells. -/
def toInt64? : Value → Option Int64
  | .int32 number => some number.toInt64
  | .int64 number => some number
  | .double number => number.toInt64?
  | .string text => integerOfText? text
  | _ => none

/-- A number below zero. -/
def isBelowZero (value : Value) : Bool :=
  match value.toBinary64? with
  | some number => number.isBelowZero
  | none => false

@[simp]
theorem isSome_toBinary64? (value : Value) :
    value.toBinary64?.isSome = value.isNumber := by
  cases value <;> rfl

end Value

/-- A count of documents from a 64-bit integer: nothing below zero. -/
def naturalOfInt64 (value : Int64) : Nat := value.toInt.toNat

end DocQuery
