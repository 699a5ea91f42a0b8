import DocQuery.Value.Order

/-!
# Equality of values

`Value.equals` compares values of one kind.  Documents are equal when they
have equal values under the same names, in whatever order; doubles are
compared numerically, so a NaN equals nothing; decimals by their digits and
exponents.  `Value.agrees` also identifies numbers of different kinds.
-/

namespace DocQuery

namespace Value

mutual

/-- Equality of two values of one kind. -/
def equals : Value → Value → Bool
  | .null, .null => true
  | .undefined, .undefined => true
  | .minKey, .minKey => true
  | .maxKey, .maxKey => true
  | .boolean left, .boolean right => left == right
  | .int32 left, .int32 right => left == right
  | .int64 left, .int64 right => left == right
  | .double left, .double right => left.equals right
  | .decimal left, .decimal right => left == right
  | .string left, .string right => left == right
  | .symbol left, .symbol right => left == right
  | .code left, .code right => left == right
  | .scopedCode left leftScope, .scopedCode right rightScope =>
    left == right && leftScope.length == rightScope.length &&
      equalsWithin leftScope rightScope
  | .objectId left, .objectId right => left == right
  | .dateTime left, .dateTime right => left == right
  | .timestamp leftTime leftStep, .timestamp rightTime rightStep =>
    leftTime == rightTime && leftStep == rightStep
  | .binary leftType left, .binary rightType right =>
    leftType == rightType && left == right
  | .regex left leftOptions, .regex right rightOptions =>
    left == right && leftOptions == rightOptions
  | .pointer left leftId, .pointer right rightId =>
    left == right && leftId == rightId
  | .array left, .array right => equalsEach left right
  | .document left, .document right =>
    left.length == right.length && equalsWithin left right
  | _, _ => false

/-- Equality item by item. -/
def equalsEach : List Value → List Value → Bool
  | [], [] => true
  | left :: lefts, right :: rights => equals left right && equalsEach lefts rights
  | _, _ => false

/-- Every entry has an equal value under its name in the other document. -/
def equalsWithin : List (String × Value) → Document → Bool
  | [], _ => true
  | (name, value) :: rest, other =>
    (match Document.get? other name with
      | some found => equals value found
      | none => false) &&
      equalsWithin rest other

end

/-- Equality that identifies numbers of different kinds with the same
double-precision number. -/
def agrees (left right : Value) : Bool :=
  if left.isNumber && right.isNumber then
    left.compare right == .eq
  else
    left.equals right

/-- A value agrees with `operand`, or is an array with an item that does. -/
def agreesOrContains (value operand : Value) : Bool :=
  value.agrees operand ||
    match value with
    | .array items => items.any fun item => item.agrees operand
    | _ => false

end Value

/-- Equality of documents in whatever order their entries stand. -/
def Document.equals (left right : Document) : Bool :=
  left.length == right.length && Value.equalsWithin left right

end DocQuery
