import DocQuery.Value

/-!
# Directions

The direction of a sort or index field, and the values that are read as one.
-/

namespace DocQuery

/-- Ascending or descending. -/
inductive Direction where
  | asc
  | desc
  deriving DecidableEq, Repr, Inhabited

namespace Direction

/-- The integer that stands for a direction. -/
def toInt : Direction → Int
  | .asc => 1
  | .desc => -1

/-- The value that stands for a direction. -/
def toValue (direction : Direction) : Value := .ofInt direction.toInt

/-- The name of a direction. -/
def name : Direction → String
  | .asc => "Asc"
  | .desc => "Desc"

/-- The direction with a name. -/
def ofName? (text : String) : Option Direction :=
  if text = "Asc" then some .asc
  else if text = "Desc" then some .desc
  else none

/-- The word for descending, in any case. -/
def isDescendingWord (text : String) : Bool :=
  text.toList.map Char.toLower == ['d', 'e', 's', 'c']

/-- Read a direction: the integer `-1`, `false` and the word `desc` mean
descending, and everything else ascending. -/
def ofValue : Value → Direction
  | .int32 number => if number = -1 then .desc else .asc
  | .int64 number => if number = -1 then .desc else .asc
  | .boolean flag => if flag then .asc else .desc
  | .string text => if isDescendingWord text then .desc else .asc
  | _ => .asc

@[simp]
theorem ofName?_name (direction : Direction) :
    ofName? direction.name = some direction := by
  cases direction <;> decide

@[simp]
theorem ofValue_toValue (direction : Direction) :
    ofValue direction.toValue = direction := by
  cases direction <;> decide

end Direction

end DocQuery
