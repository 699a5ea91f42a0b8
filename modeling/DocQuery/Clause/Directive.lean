import DocQuery.Clause.Change
import DocQuery.Clause.Condition
import DocQuery.Clause.Envelope

/-!
# Directives

All that a query under construction can be told.
-/

namespace DocQuery

/-- A directive to a query under construction. -/
inductive Directive where
  | condition (condition : Condition)
  | change (change : Change)
  /-- Show some fields, or hide others when there are none to show. -/
  | select (includes excludes : List String)
  /-- Sort by every field, in the direction that its value reads as. -/
  | orderBy (fields : Document)
  | orderByField (field : String) (direction : Value)
  /-- Bound the page; a value that is no bound is ignored. -/
  | limit (value : Value)
  /-- Pass over documents; a value that is no count is ignored. -/
  | offset (value : Value)
  deriving Inhabited

namespace Envelope

/-- Follow a directive. -/
def follow (envelope : Envelope) : Directive → Envelope
  | .condition condition =>
    { envelope with predicates := envelope.predicates.require condition }
  | .change change =>
    { envelope with updates := envelope.updates.record change }
  | .select includes excludes => envelope.select includes excludes
  | .orderBy fields => envelope.orderBy fields
  | .orderByField field direction => envelope.order field (.ofValue direction)
  | .limit value => (envelope.setLimit value).2
  | .offset value => (envelope.setOffset value).2

/-- Follow directives in order. -/
def followAll (envelope : Envelope) (directives : List Directive) : Envelope :=
  directives.foldl follow envelope

@[simp]
theorem followAll_nil (envelope : Envelope) : envelope.followAll [] = envelope :=
  rfl

@[simp]
theorem followAll_cons (envelope : Envelope) (directive : Directive)
    (rest : List Directive) :
    envelope.followAll (directive :: rest) =
      (envelope.follow directive).followAll rest := rfl

end Envelope

end DocQuery
