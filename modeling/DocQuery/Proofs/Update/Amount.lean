import DocQuery.Update
import Mathlib.Algebra.Order.Group.Int
import Mathlib.Algebra.BigOperators.Group.List.Basic

/-!
# Amounts

An amount is an integer of one of the two widths that values know.  Two amounts
add up to the exact sum as long as 64 bits can hold it, and to the nearer end of
their range otherwise.  The sum is narrow only if both amounts are and 32 bits
can hold it.  What is said of one addition carries over to amounts that are
added one after the other; there the width depends on every sum on the way, and
so on the order, while the number does not.
-/

namespace DocQuery

/-- The number in a value of an integer kind. -/
def Value.integer? : Value → Option Int
  | .int32 number => some number.toInt
  | .int64 number => some number.toInt
  | _ => none

namespace Update

/-! ## The range of 64 bits -/

/-- A number that 64 bits can hold. -/
def InRange (number : Int) : Prop :=
  -0x8000000000000000 ≤ number ∧ number < 0x8000000000000000

instance : DecidablePred InRange :=
  fun _ => inferInstanceAs (Decidable (_ ∧ _))

/-- The nearest number that 64 bits can hold. -/
def saturated (number : Int) : Int := (clampToInt64 number).toInt

theorem saturated_eq (number : Int) :
    saturated number =
      max (-0x8000000000000000) (min number 0x7FFFFFFFFFFFFFFF) :=
  Int64.toInt_ofInt_of_le (by omega) (by omega)

theorem saturated_of_inRange {number : Int}
    (least : -0x8000000000000000 ≤ number)
    (greatest : number < 0x8000000000000000) : saturated number = number := by
  rw [saturated_eq]
  omega

/-! ## Amounts and their sum -/

/-- An integer of one of two widths. -/
inductive Amount where
  | int32 (number : Int32)
  | int64 (number : Int64)

namespace Amount

/-- The amount as a value. -/
def toValue : Amount → Value
  | .int32 number => .int32 number
  | .int64 number => .int64 number

/-- The number of an amount. -/
def toInt : Amount → Int
  | .int32 number => number.toInt
  | .int64 number => number.toInt

/-- The amount has 32 bits. -/
def isNarrow : Amount → Bool
  | .int32 _ => true
  | .int64 _ => false

/-- The sum of two amounts. -/
def plus : Amount → Amount → Amount
  | .int32 left, .int32 right =>
    let sum := left.toInt + right.toInt
    if Number.inInt32Range sum then .int32 (Int32.ofInt sum)
    else .int64 (Int64.ofInt sum)
  | left, right => .int64 (clampToInt64 (left.toInt + right.toInt))

theorem toValue_injective {left right : Amount}
    (same : left.toValue = right.toValue) : left = right := by
  cases left <;> cases right <;> cases same <;> rfl

@[simp]
theorem integer?_toValue (amount : Amount) :
    amount.toValue.integer? = some amount.toInt := by
  cases amount <;> rfl

/-- The values of the integer kinds are those of amounts. -/
theorem exists_of_integer? {value : Value} {number : Int}
    (integer : value.integer? = some number) :
    ∃ amount : Amount, amount.toValue = value ∧ amount.toInt = number := by
  cases value with
  | int32 held => exact ⟨.int32 held, rfl, Option.some.inj integer⟩
  | int64 held => exact ⟨.int64 held, rfl, Option.some.inj integer⟩
  | _ => cases integer

/-- Values of amounts of one number agree, whatever their widths. -/
theorem agrees_toValue {left right : Amount} (same : left.toInt = right.toInt) :
    left.toValue.agrees right.toValue = true := by
  have number (amount : Amount) :
      amount.toValue.isNumber = true ∧
        amount.toValue.toBinary64? = some (.ofInt amount.toInt) := by
    cases amount <;> exact ⟨rfl, rfl⟩
  simp [Value.agrees, Value.compare, Value.compareNumbers, Value.numberOrNaN,
    Binary64.totalCompare, number, same]

/-- Adding amounts gives the value of their sum. -/
theorem add_toValue (left right : Amount) (field : String) :
    add (some left.toValue) right.toValue field =
      .ok (left.plus right).toValue := by
  cases left with
  | int64 held => cases right <;> rfl
  | int32 held =>
      cases right with
      | int64 => rfl
      | int32 increment =>
          cases fits : Number.inInt32Range (held.toInt + increment.toInt) <;>
            simp [add, addInt32, plus, toValue, fits]

/-- A field that holds nothing counts as a narrow zero. -/
theorem add_none_toValue (amount : Amount) (field : String) :
    add none amount.toValue field =
      .ok ((Amount.int32 0).plus amount).toValue :=
  add_toValue (.int32 0) amount field

/-- The number of a sum is exact in range, and the nearer end beyond it. -/
theorem toInt_plus (left right : Amount) :
    (left.plus right).toInt = saturated (left.toInt + right.toInt) := by
  cases left with
  | int64 held => cases right <;> rfl
  | int32 held =>
      cases right with
      | int64 => rfl
      | int32 increment =>
          have heldLeast := held.le_toInt
          have heldGreatest := held.toInt_lt
          have incrementLeast := increment.le_toInt
          have incrementGreatest := increment.toInt_lt
          rw [saturated_of_inRange (by simp only [toInt]; omega)
            (by simp only [toInt]; omega)]
          simp only [plus]
          split
          · next fits =>
              simp only [Number.inInt32Range, decide_eq_true_eq] at fits
              exact Int32.toInt_ofInt_of_le fits.1 fits.2
          · exact Int64.toInt_ofInt_of_le (by omega) (by omega)

/-- A sum is narrow if both amounts are and 32 bits can hold it. -/
theorem isNarrow_plus (left right : Amount) :
    (left.plus right).isNarrow =
      (left.isNarrow && right.isNarrow &&
        Number.inInt32Range (left.toInt + right.toInt)) := by
  cases left with
  | int64 held => cases right <;> rfl
  | int32 held =>
      cases right with
      | int64 => rfl
      | int32 increment =>
          cases fits : Number.inInt32Range (held.toInt + increment.toInt) <;>
            simp [plus, isNarrow, toInt, fits]

end Amount

end Update

end DocQuery
