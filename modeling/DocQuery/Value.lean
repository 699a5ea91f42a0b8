import DocQuery.Number.Decimal128
import DocQuery.ObjectId

/-!
# Values and documents

A value is a scalar of one of many kinds, an array of values, or a document.
A document is a list of named values in which no name occurs twice; the order
of its entries is part of it.
-/

namespace DocQuery

/-- A value of a document. -/
inductive Value where
  | null
  | undefined
  | minKey
  | maxKey
  | boolean (flag : Bool)
  | int32 (number : Int32)
  | int64 (number : Int64)
  | double (number : Binary64)
  | decimal (number : Decimal128)
  | string (text : String)
  | symbol (text : String)
  /-- A program text. -/
  | code (text : String)
  /-- A program text with the values of its free names. -/
  | scopedCode (text : String) (scope : List (String × Value))
  | objectId (id : ObjectId)
  /-- A time in milliseconds since 1970. -/
  | dateTime (milliseconds : Int64)
  /-- A time in seconds and a number within that second. -/
  | timestamp (seconds increment : UInt32)
  | binary (subtype : UInt8) (bytes : List UInt8)
  | regex (pattern options : String)
  /-- The identifier of a document in a named collection. -/
  | pointer (target : String) (id : ObjectId)
  | array (items : List Value)
  | document (entries : List (String × Value))
  deriving Inhabited

/-- Named values in order. -/
abbrev Document := List (String × Value)

namespace Value

/-- The entries of a document value. -/
def asDocument? : Value → Option Document
  | .document entries => some entries
  | _ => none

/-- The items of an array value. -/
def asArray? : Value → Option (List Value)
  | .array items => some items
  | _ => none

/-- The text of a string value. -/
def asString? : Value → Option String
  | .string text => some text
  | _ => none

/-- A value of one of the four numeric kinds. -/
def isNumber : Value → Bool
  | .int32 _ | .int64 _ | .double _ | .decimal _ => true
  | _ => false

/-- The flag that a value stands for where a yes or no is expected: integers
by being nonzero, `null` as no, any other value as yes. -/
def truthy : Value → Bool
  | .boolean flag => flag
  | .int32 number => number != 0
  | .int64 number => number != 0
  | .null => false
  | _ => true

/-- The 32-bit integer nearest in meaning to a small constant. -/
def ofInt (value : Int) : Value := .int32 (Int32.ofInt value)

end Value

/-- A name that denotes an operator and not a field. -/
def isOperatorName (name : String) : Bool := name.toList.head? == some '$'

namespace Document

/-- The value of a name. -/
def get? : Document → String → Option Value
  | [], _ => none
  | (key, value) :: rest, name =>
    if key = name then some value else get? rest name

/-- Give `name` a value: at its position if it has one, else at the end. -/
def insert : Document → String → Value → Document
  | [], name, value => [(name, value)]
  | (key, old) :: rest, name, value =>
    if key = name then (key, value) :: rest
    else (key, old) :: insert rest name value

/-- Remove `name`; the other entries keep their order. -/
def erase : Document → String → Document
  | [], _ => []
  | (key, value) :: rest, name =>
    if key = name then rest else (key, value) :: erase rest name

/-- The names in order. -/
def keys (document : Document) : List String := document.map Prod.fst

/-- Insert the entries of `additions` one after the other. -/
def merge (document additions : Document) : Document :=
  additions.foldl (fun merged (key, value) => insert merged key value) document

/-- The document made by inserting entries one after the other. -/
def ofEntries (entries : List (String × Value)) : Document :=
  merge [] entries

/-- No name occurs twice. -/
def Distinct (document : Document) : Prop := (keys document).Nodup

@[simp]
theorem get?_nil (name : String) : get? [] name = none := rfl

theorem get?_cons (key name : String) (value : Value) (rest : Document) :
    get? ((key, value) :: rest) name =
      if key = name then some value else get? rest name := rfl

@[simp]
theorem get?_insert_self (document : Document) (name : String)
    (value : Value) : (document.insert name value).get? name = some value := by
  induction document with
  | nil => simp [insert, get?]
  | cons entry rest ih =>
    obtain ⟨key, old⟩ := entry
    by_cases same : key = name <;> simp [insert, get?, same, ih]

theorem get?_insert_ne (document : Document) {name other : String}
    (different : name ≠ other) (value : Value) :
    (document.insert name value).get? other = document.get? other := by
  induction document with
  | nil => simp [insert, get?, different]
  | cons entry rest ih =>
    obtain ⟨key, old⟩ := entry
    by_cases same : key = name
    · subst same
      simp [insert, get?, different]
    · simp [insert, get?, same, ih]

theorem get?_erase_ne (document : Document) {name other : String}
    (different : name ≠ other) :
    (document.erase name).get? other = document.get? other := by
  induction document with
  | nil => rfl
  | cons entry rest ih =>
    obtain ⟨key, old⟩ := entry
    by_cases same : key = name
    · subst same
      simp [erase, get?, different]
    · simp [erase, get?, same, ih]

@[simp]
theorem insert_insert (document : Document) (name : String)
    (first second : Value) :
    (document.insert name first).insert name second =
      document.insert name second := by
  induction document with
  | nil => simp [insert]
  | cons entry rest ih =>
    obtain ⟨key, old⟩ := entry
    by_cases same : key = name <;> simp [insert, same, ih]

theorem keys_insert (document : Document) (name : String) (value : Value) :
    (document.insert name value).keys =
      if name ∈ document.keys then document.keys
      else document.keys ++ [name] := by
  induction document with
  | nil => simp [insert, keys]
  | cons entry rest ih =>
    obtain ⟨key, old⟩ := entry
    by_cases same : key = name
    · subst same
      simp [insert, keys]
    · simp only [keys] at ih
      simp only [insert, same, if_false, keys, List.map_cons, ih,
        List.mem_cons, Ne.symm same, false_or]
      split <;> simp_all

theorem distinct_insert {document : Document} (distinct : document.Distinct)
    (name : String) (value : Value) :
    (document.insert name value).Distinct := by
  unfold Distinct at *
  rw [keys_insert]
  split
  · exact distinct
  · next absent =>
    exact List.nodup_append.mpr ⟨distinct, by simp, by
      intro key member other single
      simp only [List.mem_singleton] at single
      exact fun same => absent (by rw [← single, ← same]; exact member)⟩

theorem get?_eq_none_iff {document : Document} {name : String} :
    document.get? name = none ↔ name ∉ document.keys := by
  induction document with
  | nil => simp [keys]
  | cons entry rest ih =>
    obtain ⟨key, old⟩ := entry
    simp only [keys] at ih
    by_cases same : key = name
    · simp [get?, keys, same]
    · simp only [get?, same, if_false, ih, keys, List.map_cons,
        List.mem_cons, Ne.symm same, false_or]

@[simp]
theorem get?_erase_self {document : Document} (distinct : document.Distinct)
    (name : String) : (document.erase name).get? name = none := by
  induction document with
  | nil => rfl
  | cons entry rest ih =>
    obtain ⟨key, old⟩ := entry
    simp only [Distinct, keys, List.map_cons, List.nodup_cons] at distinct
    by_cases same : key = name
    · subst same
      simpa [erase, keys] using get?_eq_none_iff.mpr distinct.1
    · simpa [erase, get?, same] using ih distinct.2

end Document

end DocQuery
