import DocQuery.Proofs.Clause.Sorts

/-!
# The page and the fields of a query

What a query shows comes from its directives alone, whatever else they say.
Its limit and its offset are the last that were accepted.  Every field that
was ever named to be shown is shown, and only when there is none, the fields
that were named to be hidden are hidden.  A field is listed once, at the place
where it was named first.
-/

namespace DocQuery

namespace Directive

/-- The values that a directive gives for the limit. -/
def limits : Directive → List Value
  | .limit value => [value]
  | _ => []

/-- The values that a directive gives for the offset. -/
def offsets : Directive → List Value
  | .offset value => [value]
  | _ => []

/-- The fields that a directive names to be shown. -/
def revealed : Directive → List String
  | .select includes _ => includes
  | _ => []

/-- The fields that a directive names to be hidden. -/
def concealed : Directive → List String
  | .select _ excludes => excludes
  | _ => []

/-- The fields that a directive hides, which are none when it names fields to
be shown. -/
def concealedAlone : Directive → List String
  | .select includes excludes => if includes.isEmpty then excludes else []
  | _ => []

/-- The last of some values that reads as an integer not below `least`, or
`usual` if none does. -/
def lastAccepted (least usual : Int64) (values : List Value) : Int64 :=
  ((values.filterMap Value.toInt64?).filter (least ≤ ·)).getLastD usual

theorem le_lastAccepted {least usual : Int64} (proper : least ≤ usual)
    (values : List Value) : least ≤ lastAccepted least usual values := by
  rw [lastAccepted, List.getLastD_eq_getLast?]
  cases last : ((values.filterMap Value.toInt64?).filter
      (least ≤ ·)).getLast? with
  | none => exact proper
  | some bound =>
      have member := List.mem_of_getLast? last
      simpa using (List.mem_filter.mp member).2

/-- Every accepted value replaces the one before. -/
theorem foldl_bound? (least usual : Int64) (values : List Value) :
    values.foldl
        (fun bound value => (Envelope.bound? least value).getD bound) usual =
      lastAccepted least usual values := by
  induction values generalizing usual with
  | nil => rfl
  | cons value rest ih =>
      rw [List.foldl_cons, ih]
      unfold lastAccepted Envelope.bound?
      cases read : value.toInt64? with
      | none =>
          rw [List.filterMap_cons_none read]
          rfl
      | some bound =>
          rw [List.filterMap_cons_some read, List.filter_cons,
            Option.filter_some]
          split
          · rw [List.getLastD_cons]
            rfl
          · rfl

end Directive

namespace Envelope

open Directive

theorem foldl_addName (names : List String) :
    names.foldl addName [] = names.eraseDups := by
  induction names using List.reverseRecOn with
  | nil => rfl
  | append_singleton names last ih =>
      rw [List.foldl_append, ih, List.eraseDups_append, List.foldl_cons,
        List.foldl_nil, addName]
      by_cases known : last ∈ names
      · simp [List.removeAll, known]
      · simp [List.removeAll, known, List.eraseDups_cons]

/-! ## What one directive does -/

theorem limit_follow (envelope : Envelope) (directive : Directive) :
    (envelope.follow directive).limit = directive.limits.foldl
      (fun limit value => (bound? 1 value).getD limit) envelope.limit := by
  cases directive with
  | limit value =>
      rw [follow, setLimit_eq]
      rfl
  | offset value =>
      rw [follow, setOffset_eq]
      rfl
  | select includes excludes =>
      exact select_unchanged limit (fun _ _ => rfl) (fun _ _ => rfl) ..
  | orderBy fields => exact orderBy_unchanged limit (fun _ _ _ => rfl) ..
  | _ => rfl

theorem offset_follow (envelope : Envelope) (directive : Directive) :
    (envelope.follow directive).offset = directive.offsets.foldl
      (fun offset value => (bound? 0 value).getD offset) envelope.offset := by
  cases directive with
  | limit value =>
      rw [follow, setLimit_eq]
      rfl
  | offset value =>
      rw [follow, setOffset_eq]
      rfl
  | select includes excludes =>
      exact select_unchanged offset (fun _ _ => rfl) (fun _ _ => rfl) ..
  | orderBy fields => exact orderBy_unchanged offset (fun _ _ _ => rfl) ..
  | _ => rfl

theorem includes_follow (envelope : Envelope) (directive : Directive) :
    (envelope.follow directive).includes =
      directive.revealed.foldl addName envelope.includes := by
  cases directive with
  | limit value =>
      rw [follow, setLimit_eq]
      rfl
  | offset value =>
      rw [follow, setOffset_eq]
      rfl
  | select shown hidden => exact includes_select envelope shown hidden
  | orderBy fields => exact orderBy_unchanged includes (fun _ _ _ => rfl) ..
  | _ => rfl

theorem excludes_follow (envelope : Envelope) (directive : Directive) :
    (envelope.follow directive).excludes =
      directive.concealedAlone.foldl addName envelope.excludes := by
  cases directive with
  | limit value =>
      rw [follow, setLimit_eq]
      rfl
  | offset value =>
      rw [follow, setOffset_eq]
      rfl
  | select shown hidden => exact excludes_select envelope shown hidden
  | orderBy fields => exact orderBy_unchanged excludes (fun _ _ _ => rfl) ..
  | _ => rfl

/-! ## What all of them come to -/

theorem limit_followAll {envelope : Envelope} {usual : Int64}
    (start : envelope.limit = usual) (directives : List Directive) :
    (envelope.followAll directives).limit =
      lastAccepted 1 usual (directives.flatMap limits) := by
  rw [← foldl_bound?, ← start]
  exact foldl_pieces limit limit_follow directives envelope

theorem offset_followAll {envelope : Envelope} {usual : Int64}
    (start : envelope.offset = usual) (directives : List Directive) :
    (envelope.followAll directives).offset =
      lastAccepted 0 usual (directives.flatMap offsets) := by
  rw [← foldl_bound?, ← start]
  exact foldl_pieces offset offset_follow directives envelope

theorem includes_followAll {envelope : Envelope}
    (start : envelope.includes = []) (directives : List Directive) :
    (envelope.followAll directives).includes =
      (directives.flatMap revealed).eraseDups := by
  rw [← foldl_addName, ← start]
  exact foldl_pieces includes includes_follow directives envelope

/-- As long as no field is to be shown, all that were named are hidden. -/
theorem excludes_followAll {envelope : Envelope}
    (start : envelope.excludes = []) {directives : List Directive}
    (noneShown : directives.flatMap revealed = []) :
    (envelope.followAll directives).excludes =
      (directives.flatMap concealed).eraseDups := by
  have alone : directives.flatMap concealed =
      directives.flatMap concealedAlone := by
    refine List.flatMap_congr fun directive member => ?_
    have silent := List.flatMap_eq_nil_iff.mp noneShown directive member
    cases directive with
    | select shown hidden =>
        rw [Directive.revealed] at silent
        simp [Directive.concealed, concealedAlone, silent]
    | _ => rfl
  rw [alone, ← foldl_addName, ← start]
  exact foldl_pieces excludes excludes_follow directives envelope

/-- Every name once, with the flag of all of them. -/
def flagged (flag : Int) (names : List String) : Document :=
  names.eraseDups.map fun name => (name, .ofInt flag)

theorem ofEntries_flagged (flag : Int) (names : List String) :
    Document.ofEntries (flagged flag names) = flagged flag names := by
  refine Document.merge_nil_of_distinct ?_
  have names_eq : (flagged flag names).keys = names.eraseDups := by
    simp [Document.keys, flagged, Function.comp_def]
  have distinct := Grouping.nodup_keysOf (names.map fun name => (name, ()))
  rw [Document.Distinct, names_eq]
  simpa [Grouping.keysOf, Function.comp_def] using distinct

theorem projection_followAll {envelope : Envelope}
    (includesNone : envelope.includes = [])
    (excludesNone : envelope.excludes = []) (directives : List Directive) :
    (envelope.followAll directives).projection =
      if directives.flatMap revealed = [] then
        flagged 0 (directives.flatMap concealed)
      else flagged 1 (directives.flatMap revealed) := by
  rw [projection, includes_followAll includesNone]
  by_cases noneShown : directives.flatMap revealed = []
  · rw [if_pos noneShown, noneShown, if_pos (by rfl),
      excludes_followAll excludesNone noneShown]
    exact ofEntries_flagged 0 _
  · have shown : (directives.flatMap revealed).eraseDups.isEmpty = false := by
      cases named : directives.flatMap revealed with
      | nil => exact absurd named noneShown
      | cons => rw [List.eraseDups_cons, List.isEmpty_cons]
    rw [if_neg noneShown, shown, if_neg Bool.false_ne_true]
    exact ofEntries_flagged 1 _

/-! ## The laws of a page -/

/-- What directives to an empty query make of a request. -/
structure Arranges (directives : List Directive) (request : Request) :
    Prop where
  /-- The limit is the last that was accepted. -/
  limit_eq : request.limit =
    (lastAccepted 1 defaultLimit (directives.flatMap limits)).toInt
  /-- The offset is the last that was accepted. -/
  offset_eq : request.offset =
    (lastAccepted 0 defaultOffset (directives.flatMap offsets)).toInt
  limit_pos : 1 ≤ request.limit
  offset_nonneg : 0 ≤ request.offset
  /-- Every field is sorted by once, where it was named first, in the direction
  that it was given last. -/
  sort_eq : request.sort =
    Document.lastGiven (directives.flatMap sortings)
  /-- Once a field is to be shown, no field is hidden. -/
  projection_eq : request.projection =
    if directives.flatMap revealed = [] then
      flagged 0 (directives.flatMap concealed)
    else flagged 1 (directives.flatMap revealed)

theorem arranges_compile (directives : List Directive) :
    Arranges directives (empty.followAll directives).compile := by
  have limit : (empty.followAll directives).limit =
      lastAccepted 1 defaultLimit (directives.flatMap limits) :=
    limit_followAll rfl directives
  have offset : (empty.followAll directives).offset =
      lastAccepted 0 defaultOffset (directives.flatMap offsets) :=
    offset_followAll rfl directives
  have limitLeast : (1 : Int64) ≤ (empty.followAll directives).limit :=
    limit ▸ le_lastAccepted (by decide) _
  have offsetLeast : (0 : Int64) ≤ (empty.followAll directives).offset :=
    offset ▸ le_lastAccepted (by decide) _
  exact {
    limit_eq := congrArg Int64.toInt limit
    offset_eq := congrArg Int64.toInt offset
    limit_pos := Int64.le_iff_toInt_le.mp limitLeast
    offset_nonneg := Int64.le_iff_toInt_le.mp offsetLeast
    sort_eq := sort_followAll rfl directives
    projection_eq := projection_followAll rfl rfl directives }

end Envelope

end DocQuery
