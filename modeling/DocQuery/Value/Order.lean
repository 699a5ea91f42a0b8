import DocQuery.Value.Number

/-!
# Order of values

`Value.compare` is the order used for sorting.  Numbers of all kinds are
compared as double-precision numbers, in the total order of their bits; values
of one scalar kind are compared by their content; all others by the rank of
their kind.  `Value.compareAlike?` is the narrower order of the range
operators, which compares only values of one kind.
-/

namespace DocQuery

namespace Value

/-- The position of a kind among all kinds. -/
def kindRank : Value → Nat
  | .minKey => 0
  | .undefined => 1
  | .null => 2
  | .int32 _ | .int64 _ | .double _ | .decimal _ => 3
  | .string _ | .symbol _ => 4
  | .document _ => 5
  | .array _ => 6
  | .binary _ _ => 7
  | .objectId _ => 8
  | .boolean _ => 9
  | .dateTime _ => 10
  | .timestamp _ _ => 11
  | .regex _ _ => 12
  | .pointer _ _ => 13
  | .code _ | .scopedCode _ _ => 14
  | .maxKey => 250

/-- The number of a numeric value; a NaN stands in for any other value. -/
def numberOrNaN (value : Value) : Binary64 :=
  value.toBinary64?.getD (.quietNaN false)

/-- Compare two numeric values as double-precision numbers. -/
def compareNumbers (left right : Value) : Ordering :=
  left.numberOrNaN.totalCompare right.numberOrNaN

/-- Compare byte strings: by length, then by subtype, then byte by byte. -/
def compareBinary (leftType : UInt8) (left : List UInt8)
    (rightType : UInt8) (right : List UInt8) : Ordering :=
  (Ord.compare left.length right.length).then
    ((Ord.compare leftType.toNat rightType.toNat).then
      (Ord.compare (left.map UInt8.toNat) (right.map UInt8.toNat)))

/-- Compare text by code point. -/
def compareText (left right : String) : Ordering :=
  Ord.compare (left.toList.map Char.toNat) (right.toList.map Char.toNat)

/-- The sort order of all values. -/
def compare (left right : Value) : Ordering :=
  if left.isNumber && right.isNumber then
    compareNumbers left right
  else
    match left, right with
    | .string first, .string second => compareText first second
    | .boolean first, .boolean second => Ord.compare first.toNat second.toNat
    | .dateTime first, .dateTime second =>
      Ord.compare first.toInt second.toInt
    | .objectId first, .objectId second => first.compare second
    | .timestamp firstTime firstStep, .timestamp secondTime secondStep =>
      (Ord.compare firstTime.toNat secondTime.toNat).then
        (Ord.compare firstStep.toNat secondStep.toNat)
    | .binary firstType first, .binary secondType second =>
      compareBinary firstType first secondType second
    | first, second => Ord.compare first.kindRank second.kindRank

/-- The order of two values of one comparable kind, numbers being one kind. -/
def compareAlike? (left right : Value) : Option Ordering :=
  if left.isNumber && right.isNumber then
    some (compareNumbers left right)
  else
    match left, right with
    | .string first, .string second => some (compareText first second)
    | .boolean first, .boolean second =>
      some (Ord.compare first.toNat second.toNat)
    | .dateTime first, .dateTime second =>
      some (Ord.compare first.toInt second.toInt)
    | .objectId first, .objectId second => some (first.compare second)
    | _, _ => none

end Value

end DocQuery
