import DocQuery.Document.Path
import DocQuery.Filter.Distance
import DocQuery.Pattern
import DocQuery.Store.Error
import DocQuery.Value.Equality

/-!
# Filters

A filter is a document.  Its entries are conditions on the values at paths, or
lists of filters under a logical operator, and a document matches when it
meets all entries.  A condition is a literal, or a document of operators whose
first name begins with a dollar sign.  Entries are tried in order and the
first one that is not met, or not well formed, decides.
-/

namespace DocQuery

namespace Filter

/-- How many members of a list operand are looked at. -/
def maxListed : Nat := 1000

/-- The operators of a condition, unless it is a literal. -/
def operators? : Value → Option Document
  | .document ((name, value) :: rest) =>
    if isOperatorName name then some ((name, value) :: rest) else none
  | _ => none

/-- A value agrees with an operand or contains it; a missing value only agrees
with `null`. -/
def agrees (value : Option Value) (operand : Value) : Bool :=
  match value with
  | none =>
    match operand with
    | .null => true
    | _ => false
  | some found => found.agreesOrContains operand

/-- A value, or an item of it when it is an array, stands in a given order to
an operand of its kind. -/
def stands (order : Ordering → Bool) (value : Option Value) (operand : Value) :
    Bool :=
  match value with
  | none => false
  | some (.array items) =>
    items.any fun item => (item.compareAlike? operand).any order
  | some found => (found.compareAlike? operand).any order

/-- A value agrees with one of the members. -/
def isAmong (value : Option Value) (members : List Value) : Bool :=
  (members.take maxListed).any fun operand => agrees value operand

/-- A value agrees with every one of the members, of which there must be at
least one. -/
def hasAll (value : Option Value) (members : List Value) : Bool :=
  !members.isEmpty &&
    (members.take maxListed).all fun operand => agrees value operand

/-- The members of a list operand. -/
def listed (operator : String) : Value → Except StoreError (List Value)
  | .array items => .ok items
  | _ => .error (.invalidOperation (.operandNotArray operator))

/-- The failure that stands for a pattern that is refused. -/
def refusalError : Pattern.Refusal → StoreError
  | .unknownFlag flag => .invalidOperation (.unknownPatternFlag flag)
  | .malformed => .invalidOperation .malformedPattern

/-- A pattern occurs in a text, or in a text among the items of an array.
Options that are no text count as none. -/
def matchesPattern (value : Option Value) (pattern : Value)
    (options : Option Value) : Except StoreError Bool :=
  match pattern with
  | .string source =>
    match Pattern.compile source ((options.bind Value.asString?).getD "") with
    | .error refusal => .error (refusalError refusal)
    | .ok expression =>
      .ok <| match value with
        | some (.string text) => expression.occursIn text
        | some (.array items) =>
          items.any fun item => item.asString?.any expression.occursIn
        | _ => false
  | _ => .error (.invalidOperation .patternNotString)

/-- A point lies within a distance of another, if a distance is given. -/
def isNear (operator : String) (value : Option Value) (target : Value)
    (limit : Option Value) : Except StoreError Bool :=
  match Point.ofValue? target with
  | none => .error (.invalidOperation (.targetNotPoint operator))
  | some there =>
    match value.bind Point.ofValue? with
    | none => .ok false
    | some here =>
      let distance :=
        if operator = "$nearSphere" then here.sphereDistance there
        else here.planeDistance there
      match limit.bind Value.toBinary64? with
      | some bound => .ok (distance.le bound)
      | none => .ok true

/-- One operator of a condition; `all` are the operators beside it. -/
def meetsOperator (value : Option Value) (all : Document) (operator : String)
    (operand : Value) : Except StoreError Bool :=
  match operator with
  | "$eq" => .ok (agrees value operand)
  | "$ne" => .ok !(agrees value operand)
  | "$gt" => .ok (stands (· == .gt) value operand)
  | "$gte" => .ok (stands (· != .lt) value operand)
  | "$lt" => .ok (stands (· == .lt) value operand)
  | "$lte" => .ok (stands (· != .gt) value operand)
  | "$in" => do
    let members ← listed operator operand
    .ok (isAmong value members)
  | "$nin" => do
    let members ← listed operator operand
    .ok !(isAmong value members)
  | "$all" => do
    let members ← listed operator operand
    .ok (hasAll value members)
  | "$exists" => .ok (value.isSome == operand.truthy)
  | "$regex" => matchesPattern value operand (all.get? "$options")
  | "$near" => isNear operator value operand (all.get? "$maxDistance")
  | "$nearSphere" => isNear operator value operand (all.get? "$maxDistance")
  | "$options" => .ok true
  | "$maxDistance" => .ok true
  | _ => .error (.invalidOperation (.unknownOperator operator))

/-- Try operators in order until one is not met. -/
def meetsEach (value : Option Value) (all : Document) :
    Document → Except StoreError Bool
  | [] => .ok true
  | (operator, operand) :: rest =>
    match meetsOperator value all operator operand with
    | .error failure => .error failure
    | .ok false => .ok false
    | .ok true => meetsEach value all rest

/-- A value meets all operators of a condition. -/
def meetsOperators (value : Option Value) (operators : Document) :
    Except StoreError Bool :=
  meetsEach value operators operators

/-- A value meets a condition. -/
def meetsCondition (value : Option Value) (condition : Value) :
    Except StoreError Bool :=
  match operators? condition with
  | some operators => meetsOperators value operators
  | none => .ok (agrees value condition)

/-- The branches of a logical operator: a list of documents, not empty. -/
def branches (operator : String) : Value → Except StoreError Unit
  | .array items =>
    if items.isEmpty then
      .error (.invalidOperation (.noBranches operator))
    else if items.all fun item => item.asDocument?.isSome then
      .ok ()
    else
      .error (.invalidOperation (.branchNotDocument operator))
  | _ => .error (.invalidOperation (.noBranches operator))

mutual

/-- A document meets all entries of a filter. -/
def matchesEntries (document : Document) :
    List (String × Value) → Except StoreError Bool
  | [] => .ok true
  | (name, condition) :: rest =>
    match matchesEntry document name condition with
    | .error failure => .error failure
    | .ok false => .ok false
    | .ok true => matchesEntries document rest

/-- A document meets one entry of a filter. -/
def matchesEntry (document : Document) (name : String) :
    Value → Except StoreError Bool
  | .array items =>
    if name = "$or" then
      (branches name (.array items)).bind fun _ => matchesAny document items
    else if name = "$and" then
      (branches name (.array items)).bind fun _ => matchesAll document items
    else if name = "$nor" then
      (branches name (.array items)).bind fun _ =>
        (matchesAny document items).map (!·)
    else if isOperatorName name then
      .error (.invalidOperation (.unknownTopLevelOperator name))
    else
      meetsCondition (document.getPath? name) (.array items)
  | condition =>
    if name = "$or" ∨ name = "$and" ∨ name = "$nor" then
      .error (.invalidOperation (.noBranches name))
    else if isOperatorName name then
      .error (.invalidOperation (.unknownTopLevelOperator name))
    else
      meetsCondition (document.getPath? name) condition

/-- A document matches one of the branches; they are tried in order. -/
def matchesAny (document : Document) : List Value → Except StoreError Bool
  | .document entries :: rest =>
    match matchesEntries document entries with
    | .error failure => .error failure
    | .ok true => .ok true
    | .ok false => matchesAny document rest
  | _ => .ok false

/-- A document matches all of the branches; they are tried in order. -/
def matchesAll (document : Document) : List Value → Except StoreError Bool
  | .document entries :: rest =>
    match matchesEntries document entries with
    | .error failure => .error failure
    | .ok false => .ok false
    | .ok true => matchesAll document rest
  | _ => .ok true

end

end Filter

/-- A document matches a filter. -/
def Document.meets (document filter : Document) : Except StoreError Bool :=
  Filter.matchesEntries document filter

@[simp]
theorem Document.meets_nil (document : Document) :
    document.meets [] = .ok true := rfl

end DocQuery
