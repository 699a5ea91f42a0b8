import DocQuery.Proofs.Filter.Recast
import DocQuery.Proofs.Projection

/-!
# Requests with numbers in other kinds

Filters and projections can be written with integers of 32 bits, with integers
of 64 bits or with doubles.  The kind is of no account but in two places: an
operand that is compared by equality and has numbers inside, and a zero that is
a flag.
-/

namespace DocQuery

open DocQuery.Filter (EntriesAlike IsElementary SaysAlike)
open DocQuery.Projection (FlagsAlike ShowsAlike)
open Value (Recast RecastEntries)

/-- As a filter, a request and the one that it is recast to have the same
outcome on every document if nothing that looks at the kinds of numbers is
asked of what has been recast, and as a projection they show the same if no
flag that counts has lost its zero.  For requests that ask one thing these
conditions are necessary. -/
theorem requests_recast {request other : Document}
    (proper : request.wellFormed = true)
    (recast : RecastEntries request other) :
    (EntriesAlike request other → SaysAlike request other) ∧
      (IsElementary request → SaysAlike request other →
        EntriesAlike request other) ∧
      (FlagsAlike request other → ShowsAlike request other) ∧
      (request.length = 1 → ShowsAlike request other →
        FlagsAlike request other) := by
  refine ⟨?_, ?_, ?_, ?_⟩
  · exact Filter.saysAlike_recast proper recast
  · intro elementary
    exact Filter.entriesAlike_of_saysAlike elementary proper recast
  · exact Projection.showsAlike_recast recast
  · intro single
    exact Projection.flagsAlike_of_showsAlike single recast

/-- A filter that compares a number, looks for it in a list, and asks whether
something is there. -/
def mixedFilter : Document :=
  [("$or", .array
      [.document
          [("n", .document
            [("$gte", .int32 1), ("$in", .array [.int32 2, .string "x"])])],
        .document
          [("a.b", .document [("$exists", .int32 1)]),
            ("t", .array [.int32 3])]])]

/-- The same filter with other kinds of numbers, except in the array. -/
def otherKindsFilter : Document :=
  [("$or", .array
      [.document
          [("n", .document
            [("$gte", .double (.ofInt 1)),
              ("$in", .array [.int64 2, .string "x"])])],
        .document
          [("a.b", .document [("$exists", .int64 1)]),
            ("t", .array [.int32 3])]])]

theorem recast_mixedFilter : RecastEntries mixedFilter otherKindsFilter := by
  have one : Recast (.int32 1) (.double (.ofInt 1)) := .double 1
  have two : Recast (.int32 2) (.int64 2) := .int64 2
  have flag : Recast (.int32 1) (.int64 1) := .int64 1
  refine .cons (.array (.cons ?_ (.cons ?_ .nil))) .nil
  · refine .document (.cons (.document (.cons one (.cons ?_ .nil))) .nil)
    exact .array (.cons two (.cons (.same _) .nil))
  · exact .document (.cons (.document (.cons flag .nil))
      (.cons (.same _) .nil))

/-- Kinds make no difference in the mixed filter, but one does in an array that
is compared and one in a flag. -/
theorem requests_recast_mixed :
    SaysAlike mixedFilter otherKindsFilter ∧
      ¬ SaysAlike [("a", .array [.int32 1])] [("a", .array [.int64 1])] ∧
      ShowsAlike [("a", .int32 1), ("_id", .int32 0)]
        [("a", .double (.ofInt 1)), ("_id", .int64 0)] ∧
      ¬ ShowsAlike [("a", .int32 0)] [("a", .double (.ofInt 0))] := by
  have one : Recast (.int32 1) (.int64 1) := .int64 1
  have oneDouble : Recast (.int32 1) (.double (.ofInt 1)) := .double 1
  have zero : Recast (.int32 0) (.int64 0) := .int64 0
  have zeroDouble : Recast (.int32 0) (.double (.ofInt 0)) := .double 0
  refine ⟨?_, ?_, ?_, ?_⟩
  · refine (requests_recast (by decide) recast_mixedFilter).1 ?_
    simp [mixedFilter, otherKindsFilter, EntriesAlike, Filter.EntryAlike,
      Filter.BranchesAlike, Filter.ConditionAlike, Filter.operators?,
      isOperatorName, Filter.OperatorsAlike, Filter.AskedAlike,
      Filter.ListedAlike, Filter.maxListed, Value.AgreedAlike,
      Filter.IsLogical, Value.LosesZero, Value.isNumber]
  · intro same
    have elementary : IsElementary [("a", .array [.int32 1])] := by
      refine ⟨"a", _, rfl, by decide +kernel, by decide, ?_⟩
      intro operators read
      cases read
    have recast : RecastEntries [("a", .array [.int32 1])]
        [("a", .array [.int64 1])] := .cons (.array (.cons one .nil)) .nil
    have alike := (requests_recast (by decide) recast).2.1 elementary same
    simp only [EntriesAlike, Filter.EntryAlike, and_true] at alike
    rcases alike.2 (by simp [Filter.IsLogical]) with number | same | apart
    · cases number
    · simp at same
    · exact absurd apart.1 (by decide)
  · refine (requests_recast (by decide)
      (.cons oneDouble (.cons zero .nil))).2.2.1 ?_
    intro pair member _
    rcases List.mem_pair.mp member with rfl | rfl <;> simp [Value.LosesZero]
  · intro same
    have alike := (requests_recast (by decide)
      (.cons zeroDouble .nil)).2.2.2 rfl same
    exact alike _ List.mem_cons_self (Or.inl (by decide)) ⟨rfl, _, rfl⟩

end DocQuery
