import DocQuery.Value.Equality
import Mathlib.Tactic.Common

/-!
# Kinds of values

The sort order compares all values; the narrower order of the range operators
knows numbers, strings, flags, times and object identifiers, each among its
own kind.  Of two values of such a kind it says what the sort order says, and
they agree where both find them equal.  Timestamps and byte strings are the
values that the sort order tells apart within their kind although the narrower
order does not know them.
-/

namespace DocQuery

/-- The kinds of values, all numbers being of one kind. -/
inductive Kind where
  | null
  | undefined
  | minKey
  | maxKey
  | boolean
  | number
  | string
  | symbol
  | code
  | scopedCode
  | objectId
  | dateTime
  | timestamp
  | binary
  | regex
  | pointer
  | array
  | document
  deriving DecidableEq

namespace Kind

/-- A kind that the range operators compare. -/
def isOrderable : Kind → Bool
  | .number | .string | .boolean | .dateTime | .objectId => true
  | _ => false

/-- A kind within which the sort order tells values apart, but not the range
operators. -/
def isOrderedBySortOnly : Kind → Bool
  | .timestamp | .binary => true
  | _ => false

end Kind

namespace Value

/-- The kind of a value. -/
def kind : Value → Kind
  | .null => .null
  | .undefined => .undefined
  | .minKey => .minKey
  | .maxKey => .maxKey
  | .boolean _ => .boolean
  | .int32 _ | .int64 _ | .double _ | .decimal _ => .number
  | .string _ => .string
  | .symbol _ => .symbol
  | .code _ => .code
  | .scopedCode _ _ => .scopedCode
  | .objectId _ => .objectId
  | .dateTime _ => .dateTime
  | .timestamp _ _ => .timestamp
  | .binary _ _ => .binary
  | .regex _ _ => .regex
  | .pointer _ _ => .pointer
  | .array _ => .array
  | .document _ => .document

variable {left right : Value}

/-- The range operators compare values of an orderable kind as the sort does. -/
theorem compareAlike?_of_kind_eq (orderable : right.kind.isOrderable = true)
    (same : left.kind = right.kind) :
    left.compareAlike? right = some (left.compare right) := by
  cases right <;> cases orderable <;> cases left <;>
    first | rfl | cases same

/-- The range operators compare no values of other kinds. -/
theorem compareAlike?_of_not_isOrderable
    (other : right.kind.isOrderable = false) :
    left.compareAlike? right = none := by
  cases right <;> cases other <;> cases left <;> rfl

/-- Of two values of one kind that the range operators do not compare, the
sort order puts one before the other only if they are timestamps or byte
strings. -/
theorem isOrderable_of_compare_eq_lt (same : left.kind = right.kind)
    (less : left.compare right = .lt) :
    right.kind.isOrderable = !right.kind.isOrderedBySortOnly := by
  cases right with
  | timestamp | binary => rfl
  | int32 | int64 | double | decimal => rfl
  | string | boolean | dateTime | objectId => rfl
  | _ =>
    cases left <;> cases same
    all_goals cases less

/-! ## Equality among the outcomes -/

theorem compareText_eq_iff {left right : String} :
    compareText left right = .eq ↔ left = right := by
  rw [compareText, Std.compare_eq_iff_eq, List.map_inj_right fun _ _ =>
    Char.toNat_inj.mp, String.toList_inj]

theorem flag_toNat_inj {left right : Bool} :
    left.toNat = right.toNat ↔ left = right := by
  cases left <;> cases right <;> decide

theorem compare_objectId_eq_iff {left right : ObjectId} :
    left.compare right = .eq ↔ left = right := by
  rw [ObjectId.compare, Std.compare_eq_iff_eq, BitVec.toNat_inj,
    ObjectId.mk.injEq]

/-- A value agrees with another one of an orderable kind exactly if the range
operators find the two equal. -/
theorem agrees_eq_compareAlike? (orderable : right.kind.isOrderable = true) :
    left.agrees right = (left.compareAlike? right == some .eq) := by
  cases right with
  | int32 | int64 | double | decimal => cases left <;> rfl
  | string | boolean | dateTime | objectId =>
    rw [Bool.eq_iff_iff]
    cases left <;>
      simp [agrees, equals, compareAlike?, isNumber, compareText_eq_iff,
        flag_toNat_inj, compare_objectId_eq_iff, Int64.toInt_inj]
  | _ => cases orderable

end Value

end DocQuery
