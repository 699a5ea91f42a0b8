import DocQuery.Clause.Predicates

/-!
# Conditions

What can be asked of the documents of a query, and how each condition is added
to the predicates.
-/

namespace DocQuery

/-- A condition on the documents of a query. -/
inductive Condition where
  | equal (field : String) (value : Value)
  /-- Every field equals its value. -/
  | allEqual (fields : Document)
  /-- One of the fields equals its value. -/
  | someEqual (fields : Document)
  | isIn (field : String) (values : List Value)
  | hasAll (field : String) (values : List Value)
  | notIn (field : String) (values : List Value)
  | greater (field : String) (value : Value)
  | atLeast (field : String) (value : Value)
  | less (field : String) (value : Value)
  | atMost (field : String) (value : Value)
  | different (field : String) (value : Value)
  /-- The bounds belong to the range. -/
  | between (field : String) (low high : Value)
  /-- The bounds do not belong to the range. -/
  | strictlyBetween (field : String) (low high : Value)
  /-- A place is near another, at most at a distance if one is given. -/
  | near (field : String) (target : Value) (distance : Option Binary64)
      (spherical : Bool)
  /-- The field holds a text; the name of the field has no blank margin. -/
  | like (field : String) (text : String) (options : LikeOptions)
  deriving Inhabited

namespace Predicates

/-- The name of a proximity operator, on a plane or on a sphere. -/
def nearOperator (spherical : Bool) : String :=
  if spherical then "$nearSphere" else "$near"

/-- Add a condition.  Of two conditions that give the same field a literal, a
text or the same operator, the later one counts. -/
def require (predicates : Predicates) : Condition → Predicates
  | .equal field value => predicates.setLiteral field value
  | .allEqual fields =>
    fields.foldl (fun all (field, value) => all.setLiteral field value)
      predicates
  | .someEqual fields =>
    fields.foldl (fun all (field, value) => all.addBranch [(field, value)])
      predicates
  | .isIn field values => predicates.setOperator field "$in" (.array values)
  | .hasAll field values => predicates.setOperator field "$all" (.array values)
  | .notIn field values => predicates.setOperator field "$nin" (.array values)
  | .greater field value => predicates.setOperator field "$gt" value
  | .atLeast field value => predicates.setOperator field "$gte" value
  | .less field value => predicates.setOperator field "$lt" value
  | .atMost field value => predicates.setOperator field "$lte" value
  | .different field value => predicates.setOperator field "$ne" value
  | .between field low high =>
    (predicates.setOperator field "$gte" low).setOperator field "$lte" high
  | .strictlyBetween field low high =>
    (predicates.setOperator field "$gt" low).setOperator field "$lt" high
  | .near field target distance spherical =>
    let placed := predicates.setOperator field (nearOperator spherical) target
    match distance with
    | none => placed
    | some distance =>
      placed.setOperator field "$maxDistance" (.double distance)
  | .like field text options =>
    predicates.setPattern (Text.trim field) (Like.pattern text options)

@[simp]
theorem require_allEqual_nil (predicates : Predicates) :
    predicates.require (.allEqual []) = predicates := rfl

@[simp]
theorem require_someEqual_nil (predicates : Predicates) :
    predicates.require (.someEqual []) = predicates := rfl

end Predicates

end DocQuery
