import DocQuery.Json.Quoted
import DocQuery.Number.Binary64

/-!
# JSON values

The value of a JSON text.  Members stay in the order of the text, repeated
names included; what becomes of them is left to the reader of the value.  A
text can be well formed and yet hold parts that have no value; they are kept,
because some readers pass over them.
-/

namespace DocQuery

/-- A JSON value. -/
inductive Json where
  | null
  | boolean (flag : Bool)
  /-- An integer from `0` to `2 ^ 64 - 1`. -/
  | natural (value : Nat)
  /-- An integer from `-2 ^ 63` to `-1`. -/
  | negative (value : Int)
  /-- Any other number. -/
  | real (value : Binary64)
  /-- A number too large to be represented. -/
  | outOfRange
  | string (text : String)
  /-- A string that is no text. -/
  | improper (quoted : Json.Quoted)
  | array (items : List Json)
  | object (members : List (String × Json))
  /-- The values of an object with a name that is no text. -/
  | nameless (values : List Json)
  /-- An array or object below the deepest level that is read. -/
  | tooDeep
  deriving Inhabited

namespace Json

/-- The last value of a member. -/
def member? (members : List (String × Json)) (name : String) : Option Json :=
  (members.reverse.find? fun (known, _) => known == name).map Prod.snd

/-- A member has this name. -/
def hasMember (members : List (String × Json)) (name : String) : Bool :=
  members.any fun (known, _) => known == name

mutual

/-- No part of the value is without a value of its own. -/
def isSound : Json → Bool
  | .outOfRange => false
  | .improper _ => false
  | .nameless _ => false
  | .tooDeep => false
  | .array items => areSound items
  | .object members => membersSound members
  | _ => true

/-- All items are sound. -/
def areSound : List Json → Bool
  | [] => true
  | item :: rest => item.isSound && areSound rest

/-- The values of all members are sound. -/
def membersSound : List (String × Json) → Bool
  | [] => true
  | (_, value) :: rest => value.isSound && membersSound rest

end

mutual

/-- The value can be passed over: what has no value does no harm there, except
a control character that is not escaped. -/
def canIgnore : Json → Bool
  | .improper quoted => !quoted.hasControl
  | .array items => canIgnoreAll items
  | .object members => canIgnoreMembers members
  | .nameless values => canIgnoreAll values
  | _ => true

/-- All items can be passed over. -/
def canIgnoreAll : List Json → Bool
  | [] => true
  | item :: rest => item.canIgnore && canIgnoreAll rest

/-- The values of all members can be passed over. -/
def canIgnoreMembers : List (String × Json) → Bool
  | [] => true
  | (_, value) :: rest => value.canIgnore && canIgnoreMembers rest

end

/-- The object with members whose names may be no texts. -/
def ofMembers (members : List (Option String × Json)) : Json :=
  match members.mapM fun (name, value) => name.map (·, value) with
  | some named => .object named
  | none => .nameless (members.map Prod.snd)

/-- The value of a string. -/
def ofQuoted (quoted : Quoted) : Json :=
  match quoted.text? with
  | some text => .string text
  | none => .improper quoted

end Json

end DocQuery
