import DocQuery.Clause.Directive
import Mathlib.Data.List.Basic

/-!
# What directives concern

A directive states a condition, asks for a change, or concerns the page.  The
predicates of a query come from its conditions alone and the update from its
changes alone, whatever directives stand between them.
-/

namespace DocQuery

/-- A part of the state that no step touches is the same after all steps. -/
theorem foldl_unchanged {State Item Part : Type} (part : State → Part)
    {step : State → Item → State}
    (unchanged : ∀ state item, part (step state item) = part state)
    (items : List Item) (state : State) :
    part (items.foldl step state) = part state := by
  induction items generalizing state with
  | nil => rfl
  | cons item rest ih =>
      rw [List.foldl_cons, ih, unchanged]

/-- A part of the state that every step changes piece by piece is changed by
the pieces of all steps, one after the other. -/
theorem foldl_pieces {State Item Piece Part : Type} (part : State → Part)
    {step : State → Item → State} {pieces : Item → List Piece}
    {change : Part → Piece → Part}
    (inPieces : ∀ state item,
      part (step state item) = (pieces item).foldl change (part state))
    (items : List Item) (state : State) :
    part (items.foldl step state) =
      (items.flatMap pieces).foldl change (part state) := by
  rw [List.foldl_flatMap]
  exact (List.foldl_hom part fun state item =>
    (inPieces state item).symm).symm

namespace Directive

/-- The condition that a directive states. -/
def condition? : Directive → Option Condition
  | .condition stated => some stated
  | _ => none

/-- The change that a directive asks for. -/
def change? : Directive → Option Change
  | .change wanted => some wanted
  | _ => none

/-- The conditions that directives state, in order. -/
def conditions (directives : List Directive) : List Condition :=
  directives.filterMap condition?

/-- The changes that directives ask for, in order. -/
def changes (directives : List Directive) : List Change :=
  directives.filterMap change?

end Directive

namespace Envelope

theorem setLimit_eq (envelope : Envelope) (value : Value) :
    (envelope.setLimit value).2 =
      { envelope with limit := (bound? 1 value).getD envelope.limit } := by
  unfold setLimit
  cases bound? 1 value <;> rfl

theorem setOffset_eq (envelope : Envelope) (value : Value) :
    (envelope.setOffset value).2 =
      { envelope with offset := (bound? 0 value).getD envelope.offset } := by
  unfold setOffset
  cases bound? 0 value <;> rfl

/-- Choosing fields leaves alone whatever showing or hiding one field leaves
alone. -/
theorem select_unchanged {Part : Type} (part : Envelope → Part)
    (revealed : ∀ envelope field,
      part (reveal envelope field) = part envelope)
    (concealed : ∀ envelope field,
      part (conceal envelope field) = part envelope)
    (envelope : Envelope) (includes excludes : List String) :
    part (envelope.select includes excludes) = part envelope := by
  unfold select
  split
  · exact foldl_unchanged part concealed excludes envelope
  · exact foldl_unchanged part revealed includes envelope

@[simp]
theorem includes_conceal (envelope : Envelope) (field : String) :
    (envelope.conceal field).includes = envelope.includes := rfl

@[simp]
theorem excludes_reveal (envelope : Envelope) (field : String) :
    (envelope.reveal field).excludes = envelope.excludes := rfl

theorem includes_select (envelope : Envelope)
    (includes excludes : List String) :
    (envelope.select includes excludes).includes =
      includes.foldl addName envelope.includes := by
  unfold select
  split
  · next none =>
      rw [List.isEmpty_iff.mp none]
      exact foldl_unchanged Envelope.includes (includes_conceal · ·) excludes
        envelope
  · exact (List.foldl_hom Envelope.includes fun _ _ => rfl).symm

theorem excludes_select (envelope : Envelope)
    (includes excludes : List String) :
    (envelope.select includes excludes).excludes =
      (if includes.isEmpty then excludes else []).foldl addName
        envelope.excludes := by
  unfold select
  split
  · exact (List.foldl_hom Envelope.excludes fun _ _ => rfl).symm
  · exact foldl_unchanged Envelope.excludes (excludes_reveal · ·) includes
      envelope

/-- Sorting by some fields leaves alone whatever sorting by one field leaves
alone. -/
theorem orderBy_unchanged {Part : Type} (part : Envelope → Part)
    (ordered : ∀ envelope field direction,
      part (order envelope field direction) = part envelope)
    (envelope : Envelope) (fields : Document) :
    part (envelope.orderBy fields) = part envelope :=
  foldl_unchanged part (fun _ _ => ordered ..) fields envelope

/-- Choosing fields to show, a sort or a bound leaves alone what such a choice
does not concern. -/
theorem page_unchanged {Part : Type} (part : Envelope → Part)
    (ofPage : ∀ envelope includes excludes sorts limit offset,
      part { envelope with includes, excludes, sorts, limit, offset } =
        part envelope)
    {directive : Directive} (noCondition : directive.condition? = none)
    (noChange : directive.change? = none) (envelope : Envelope) :
    part (envelope.follow directive) = part envelope := by
  cases directive with
  | condition => simp [Directive.condition?] at noCondition
  | change => simp [Directive.change?] at noChange
  | select includes excludes =>
      exact select_unchanged part (fun _ _ => ofPage ..) (fun _ _ => ofPage ..)
        envelope includes excludes
  | orderBy fields =>
      exact orderBy_unchanged part (fun _ _ _ => ofPage ..) envelope fields
  | orderByField => exact ofPage ..
  | limit value =>
      rw [follow, setLimit_eq]
      exact ofPage ..
  | offset value =>
      rw [follow, setOffset_eq]
      exact ofPage ..

theorem predicates_follow (envelope : Envelope) (directive : Directive) :
    (envelope.follow directive).predicates =
      directive.condition?.toList.foldl Predicates.require
        envelope.predicates := by
  cases directive with
  | condition => rfl
  | change => rfl
  | _ =>
      exact page_unchanged predicates (fun _ _ _ _ _ _ => rfl) rfl rfl envelope

theorem updates_follow (envelope : Envelope) (directive : Directive) :
    (envelope.follow directive).updates =
      directive.change?.toList.foldl Updates.record envelope.updates := by
  cases directive with
  | condition => rfl
  | change => rfl
  | _ => exact page_unchanged updates (fun _ _ _ _ _ _ => rfl) rfl rfl envelope

/-- The predicates come from the conditions, in order. -/
theorem predicates_followAll (envelope : Envelope)
    (directives : List Directive) :
    (envelope.followAll directives).predicates =
      (Directive.conditions directives).foldl Predicates.require
        envelope.predicates := by
  rw [Directive.conditions, List.filterMap_eq_flatMap_toList]
  exact foldl_pieces predicates predicates_follow directives envelope

/-- The update comes from the changes, in order. -/
theorem updates_followAll (envelope : Envelope) (directives : List Directive) :
    (envelope.followAll directives).updates =
      (Directive.changes directives).foldl Updates.record
        envelope.updates := by
  rw [Directive.changes, List.filterMap_eq_flatMap_toList]
  exact foldl_pieces updates updates_follow directives envelope

end Envelope

end DocQuery
