import DocQuery.Proofs.Clause.Directive
import DocQuery.Proofs.Grouping

/-!
# What changes come to

Every change gives fields to one operator.  The update of a query groups what
was given by the operators: every operator that was used has one payload, in
the form that this operator asks for, made from what was given to it alone.
-/

namespace DocQuery

open Grouping

namespace Change

/-- The operator that a change is made by. -/
def operator : Change → UpdateOperator
  | .increment _ _ | .incrementAll _ | .decrement _ _ | .decrementAll _ => .inc
  | .set _ _ | .setAll _ => .set
  | .unset _ => .unset
  | .addToSet _ _ | .addEachToSet _ _ => .addToSet
  | .push _ _ | .pushAll _ => .push
  | .pop _ => .pop
  | .pull _ _ => .pull
  | .rename _ _ => .rename

/-- The fields that a change gives its operator, with their operands. -/
def fields : Change → Document
  | .increment field amount | .decrement field amount => [(field, amount)]
  | .incrementAll amounts | .decrementAll amounts => amounts
  | .set field value | .push field value => [(field, value)]
  | .setAll fields | .pushAll fields => fields
  | .unset fields => fields.map fun field => (field, .ofInt 1)
  | .addToSet field (.array values) | .addEachToSet field values =>
    [(field, .document [("$each", .array values)])]
  | .addToSet field value => [(field, value)]
  | .pop fields => fields.map fun field => (field, .ofInt (-1))
  | .pull field criterion => [(field, criterion)]
  | .rename old new => [(old, .string new)]

/-- What changes give to operators. -/
def given (changes : List Change) : List (UpdateOperator × Document) :=
  changes.map fun change => (change.operator, change.fields)

/-- The old and the new name of a change that renames. -/
def renamed? : Change → Option (String × String)
  | .rename old new => some (old, new)
  | _ => none

/-- The entry of an update that renames one field. -/
def renamePair (names : String × String) : Document :=
  [(names.1, .string names.2)]

/-- Only changes that rename give anything to `$rename`. -/
theorem about_rename_given (changes : List Change) :
    about .rename (given changes) =
      (changes.filterMap renamed?).map renamePair := by
  induction changes with
  | nil => rfl
  | cons change rest ih =>
    rw [given] at ih
    rw [given, List.map_cons, about_cons, ih]
    cases change <;> rfl

end Change

namespace UpdateOperator

/-- The payload of an operator that was given fields, call after call: for
`$pull` the fields of the last call, for `$rename` the list of the pairs, and
for every other operator all fields, each with the operand that it was given
last. -/
def payloadOf : UpdateOperator → List Document → Value
  | .pull => fun calls => .document (calls.getLastD [])
  | .rename => fun calls => .array (calls.map .document)
  | _ => fun calls => .document (Document.lastGiven calls.flatten)

/-- The payload after one more call. -/
def extend : UpdateOperator → Document → Option Value → Value
  | .pull => fun fields _ => .document fields
  | .rename => fun pair old =>
    .array (((old.bind Value.asArray?).getD []) ++ [.document pair])
  | _ => fun fields old =>
    .document (((old.bind Value.asDocument?).getD []).merge fields)

/-- A payload has the form that an operator asks for: a list of pairs of names
for `$rename`, and fields for every other operator. -/
inductive Accepts : UpdateOperator → Value → Prop
  | fields {operator : UpdateOperator} (plain : operator ≠ .rename)
      (entries : Document) : Accepts operator (.document entries)
  | pairs (names : List (String × String)) :
      Accepts .rename
        (.array ((names.map Change.renamePair).map .document))

theorem name_injective : Function.Injective name := by
  intro first second same
  cases first <;> cases second <;> simp_all [name]

theorem payloadOf_singleton (operator : UpdateOperator) (fields : Document) :
    operator.payloadOf [fields] = operator.extend fields none := by
  cases operator <;> simp [payloadOf, extend, Document.merge_nil]

theorem payloadOf_concat (operator : UpdateOperator) (calls : List Document)
    (fields : Document) :
    operator.payloadOf (calls ++ [fields]) =
      operator.extend fields (some (operator.payloadOf calls)) := by
  cases operator <;>
    simp [payloadOf, extend, Value.asArray?, Value.asDocument?,
      Document.merge_lastGiven]

/-- Every operator accepts what changes come to. -/
theorem accepts_payloadOf (operator : UpdateOperator) (changes : List Change) :
    operator.Accepts
      (operator.payloadOf (about operator (Change.given changes))) := by
  cases operator with
  | rename =>
    rw [payloadOf, Change.about_rename_given]
    exact .pairs _
  | _ => exact .fields (by decide) _

end UpdateOperator

namespace Updates

/-- The update document with payloads of operators. -/
def named (payloads : List (UpdateOperator × Value)) : Document :=
  payloads.map fun (operator, payload) => (operator.name, payload)

theorem document_putAll {operator : UpdateOperator}
    (notPull : operator ≠ .pull) (notRename : operator ≠ .rename)
    (updates : Updates) (fields : Document) :
    (updates.putAll operator fields).document =
      Grouping.put operator.name (operator.extend fields)
        updates.document := by
  have payload : updates.payload operator =
      ((updates.document.get? operator.name).bind
        Value.asDocument?).getD [] := by
    unfold payload
    rcases updates.document.get? operator.name with _ | value
    · rfl
    · cases value <;> rfl
  rw [← Document.insert_get?_eq_put, putAll, payload]
  cases operator with
  | pull => exact absurd rfl notPull
  | rename => exact absurd rfl notRename
  | _ => rfl

theorem document_replacePull (updates : Updates) (field : String)
    (criterion : Value) :
    (updates.replacePull field criterion).document =
      Grouping.put UpdateOperator.pull.name
        (UpdateOperator.pull.extend [(field, criterion)]) updates.document :=
  Document.insert_eq_put ..

theorem document_addRename (updates : Updates) (old new : String) :
    (updates.addRename old new).document =
      Grouping.put UpdateOperator.rename.name
        (UpdateOperator.rename.extend [(old, .string new)])
        updates.document := by
  have renames : updates.renames =
      ((updates.document.get? UpdateOperator.rename.name).bind
        Value.asArray?).getD [] := by
    unfold renames
    rcases updates.document.get? UpdateOperator.rename.name with _ | value
    · rfl
    · cases value <;> rfl
  rw [← Document.insert_get?_eq_put, addRename, renames]
  rfl

/-- A change extends the payload of its operator and nothing else. -/
theorem document_record (updates : Updates) (change : Change) :
    (updates.record change).document =
      Grouping.put change.operator.name
        (change.operator.extend change.fields) updates.document := by
  cases change with
  | pull field criterion => exact document_replacePull updates field criterion
  | rename old new => exact document_addRename updates old new
  | addToSet field value =>
    cases value <;> exact document_putAll (by decide) (by decide) updates _
  | _ => exact document_putAll (by decide) (by decide) updates _

theorem named_put (operator : UpdateOperator)
    (change : Option Value → Value) (payloads : List (UpdateOperator × Value)) :
    Grouping.put operator.name change (named payloads) =
      named (Grouping.put operator change payloads) :=
  put_map_key UpdateOperator.name_injective operator change payloads

/-- The update after changes that are asked for from the beginning. -/
theorem document_foldl_record (changes : List Change) :
    (changes.foldl record empty).document =
      named (grouped UpdateOperator.payloadOf (Change.given changes)) := by
  have givenInTurn : (changes.foldl record empty).document =
      (Change.given changes).foldl
        (fun document (operator, fields) =>
          Grouping.put operator.name (operator.extend fields) document)
        (named []) := by
    rw [Change.given, List.foldl_map]
    exact (List.foldl_hom Updates.document fun updates change =>
      (document_record updates change).symm).symm
  rw [givenInTurn, ← foldl_put (fun operator => operator.extend)
    UpdateOperator.payloadOf_singleton
    (fun operator calls fields _ => operator.payloadOf_concat calls fields)]
  exact List.foldl_hom named fun payloads call =>
    named_put call.1 (call.1.extend call.2) payloads

/-- Every entry of an update is an operator with a payload that it accepts. -/
def Accepted (update : Document) : Prop :=
  ∀ entry ∈ update, ∃ operator : UpdateOperator,
    operator.name = entry.1 ∧ operator.Accepts entry.2

theorem accepted_named_grouped (changes : List Change) :
    Accepted
      (named (grouped UpdateOperator.payloadOf (Change.given changes))) := by
  intro entry member
  simp only [named, grouped, List.map_map, List.mem_map] at member
  rcases member with ⟨operator, -, rfl⟩
  exact ⟨operator, rfl, operator.accepts_payloadOf changes⟩

theorem distinct_named_grouped
    (payload : UpdateOperator → List Document → Value)
    (given : List (UpdateOperator × Document)) :
    (named (grouped payload given)).Distinct := by
  have keys : (named (grouped payload given)).keys =
      (keysOf given).map UpdateOperator.name := by
    simp [named, grouped, Document.keys, Function.comp_def]
  rw [Document.Distinct, keys]
  exact (nodup_keysOf given).map UpdateOperator.name_injective

end Updates

end DocQuery
