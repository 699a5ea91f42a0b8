import DocQuery.Unicode.CodeSet
import Mathlib.Algebra.GroupWithZero.Nat
import Mathlib.Data.List.Pairwise
import Mathlib.Tactic.Common

/-!
# Membership in sets of code points

Membership changes at every edge, so it is found by walking along the edges up
to a code point.  Halving finds the same answer, because the edges ascend.
The walk along two sets keeps pace with the walk along the result, and with it
the union of sets has the members of both.
-/

namespace DocQuery.Unicode

/-! ## Walking along edges -/

/-- Membership of a code point among ascending edges, from how things stand
before the first one. -/
def inside : Bool → List Nat → Nat → Bool
  | before, [], _ => before
  | before, edge :: edges, code =>
    if edge ≤ code then inside (!before) edges code else before

theorem inside_of_forall_lt {before : Bool} {edges : List Nat} {code : Nat}
    (later : ∀ edge ∈ edges, code < edge) :
    inside before edges code = before := by
  cases edges with
  | nil => rfl
  | cons edge rest =>
      rw [inside, if_neg]
      exact Nat.not_le.mpr (later edge List.mem_cons_self)

/-- The code point lies before an edge, if there is one. -/
def liesBefore (code : Nat) : Option Nat → Bool
  | some edge => decide (code < edge)
  | none => true

/-- No edge up to the code point stands at this position. -/
def isPast (edges : List Nat) (code index : Nat) : Bool :=
  liesBefore code edges[index]?

/-- The number of edges up to a code point tells on which side it lies. -/
theorem inside_eq_of_isPast {before : Bool} {edges : List Nat}
    {code count : Nat}
    (past : ∀ index, isPast edges code index = true ↔ count ≤ index) :
    inside before edges code = (before != (count % 2 == 1)) := by
  induction edges generalizing before count with
  | nil =>
      have zero : count = 0 := Nat.le_zero.mp ((past 0).mp rfl)
      rw [zero, inside]
      cases before <;> rfl
  | cons edge rest ih =>
      have here : code < edge ↔ count ≤ 0 := by
        rw [← past 0]
        simp [isPast, liesBefore]
      cases count with
      | zero =>
          rw [inside, if_neg (Nat.not_le.mpr (here.mpr (Nat.le_refl 0)))]
          cases before <;> rfl
      | succ count =>
          have reached : edge ≤ code := by omega
          rw [inside, if_pos reached, @ih _ count]
          · rcases Nat.mod_two_eq_zero_or_one count with even | odd
            · have next : (count + 1) % 2 = 1 := by omega
              rw [even, next]
              cases before <;> rfl
            · have next : (count + 1) % 2 = 0 := by omega
              rw [odd, next]
              cases before <;> rfl
          · intro index
            have next := past (index + 1)
            rw [Nat.add_le_add_iff_right] at next
            exact next

/-! ## Halving -/

/-- Halving finds the first position from which on the answer lies before. -/
theorem halve_spec {above : Nat → Bool}
    (ascending : ∀ low high, low ≤ high → above low = true →
      above high = true) {fuel low high : Nat}
    (enough : high - low < 2 ^ fuel) (ordered : low ≤ high)
    (before : ∀ index < low, above index = false)
    (after : ∀ index, high ≤ index → above index = true) (index : Nat) :
    above index = true ↔ halve above fuel low high ≤ index := by
  have settled {point : Nat} (before : ∀ index < point, above index = false)
      (after : ∀ index, point ≤ index → above index = true) :
      above index = true ↔ point ≤ index := by
    refine ⟨fun present => ?_, after index⟩
    by_contra early
    rw [before index (Nat.not_le.mp early)] at present
    cases present
  induction fuel generalizing low high with
  | zero =>
      obtain rfl : low = high := by
        rw [Nat.pow_zero] at enough
        omega
      exact settled before after
  | succ fuel ih =>
      rw [Nat.pow_succ] at enough
      by_cases apart : high ≤ low
      · obtain rfl : low = high := by omega
        rw [halve, if_pos apart]
        exact settled before after
      · rw [halve, if_neg apart]
        cases answer : above ((low + high) / 2) with
        | true =>
            simp only [answer, if_true]
            exact ih (by omega) (by omega) before fun index later =>
              ascending _ index later answer
        | false =>
            simp only [answer, Bool.false_eq_true, if_false]
            refine @ih ((low + high) / 2 + 1) high (by omega) (by omega)
              (fun index early => ?_) after
            by_contra present
            rw [ascending index _ (by omega) (by simpa using present)] at answer
            cases answer

/-! ## Merging edges -/

/-- The edges ascend. -/
abbrev Ascending (edges : List Nat) : Prop := edges.Pairwise (· < ·)

/-- How things stand past an edge, and the edges left, if it is the first one
or lies before all of them. -/
def takeEdge (edge : Nat) (before : Bool) : List Nat → Bool × List Nat
  | [] => (before, [])
  | first :: rest =>
    if first = edge then (!before, rest) else (before, first :: rest)

section

variable {edge : Nat} {before : Bool} {edges : List Nat}

theorem ascending_takeEdge (sorted : Ascending edges)
    (least : ∀ other ∈ edges, edge ≤ other) :
    Ascending (edge :: (takeEdge edge before edges).2) := by
  cases edges with
  | nil => exact List.pairwise_singleton _ _
  | cons first rest =>
      rw [takeEdge]
      split
      · next same =>
          rcases same with rfl
          exact sorted
      · next apart =>
          have here := least first List.mem_cons_self
          refine List.pairwise_cons.mpr ⟨fun other member => ?_, sorted⟩
          rcases List.mem_cons.mp member with rfl | later
          · omega
          · have ordered := List.rel_of_pairwise_cons sorted later
            omega

theorem takeEdge_subset : (takeEdge edge before edges).2 ⊆ edges := by
  cases edges with
  | nil => exact List.Subset.refl _
  | cons first rest =>
      rw [takeEdge]
      split
      · exact List.subset_cons_self first rest
      · exact List.Subset.refl _

theorem inside_takeEdge (sorted : Ascending edges)
    (least : ∀ other ∈ edges, edge ≤ other) (code : Nat) :
    inside before edges code =
      if edge ≤ code then
        inside (takeEdge edge before edges).1 (takeEdge edge before edges).2 code
      else before := by
  split
  · next reached =>
      cases edges with
      | nil => rfl
      | cons first rest =>
          rw [takeEdge]
          split
          · next same =>
              rw [inside, if_pos (same ▸ reached)]
          · rfl
  · next early =>
      apply inside_of_forall_lt
      intro other member
      have bound := least other member
      omega

end

/-- One step of the walk along two sets takes the lowest edge of them, and
keeps it if it makes a difference to the result. -/
theorem mergeEdges_succ_eq (combined : Bool → Bool → Bool) (fuel : Nat)
    (inLeft inRight within : Bool) {left right : List Nat}
    (leftSorted : Ascending left) (rightSorted : Ascending right)
    (remain : left ≠ [] ∨ right ≠ []) :
    ∃ edge, (edge ∈ left ∨ edge ∈ right) ∧
      (∀ other ∈ left, edge ≤ other) ∧ (∀ other ∈ right, edge ≤ other) ∧
      (takeEdge edge inLeft left).2.length +
          (takeEdge edge inRight right).2.length < left.length + right.length ∧
      mergeEdges combined (fuel + 1) inLeft inRight within left right =
        (if combined (takeEdge edge inLeft left).1
            (takeEdge edge inRight right).1 == within then [] else [edge]) ++
          mergeEdges combined fuel (takeEdge edge inLeft left).1
            (takeEdge edge inRight right).1
            (combined (takeEdge edge inLeft left).1
              (takeEdge edge inRight right).1)
            (takeEdge edge inLeft left).2 (takeEdge edge inRight right).2 := by
  have first {first : Nat} {rest : List Nat} (sorted : Ascending (first :: rest)) :
      ∀ other ∈ first :: rest, first ≤ other := by
    intro other member
    rcases List.mem_cons.mp member with rfl | later
    · exact Nat.le_refl _
    · exact Nat.le_of_lt (List.rel_of_pairwise_cons sorted later)
  cases left with
  | nil =>
      cases right with
      | nil => simp at remain
      | cons edge others =>
          refine ⟨edge, by simp, by simp, first rightSorted, ?_, ?_⟩
          · simp [takeEdge]
          · simp only [takeEdge, mergeEdges]
            split <;> simp [*]
  | cons leftEdge leftOthers =>
      cases right with
      | nil =>
          refine ⟨leftEdge, by simp, first leftSorted, by simp, ?_, ?_⟩
          · simp [takeEdge]
          · simp only [takeEdge, mergeEdges]
            split <;> simp [*]
      | cons rightEdge rightOthers =>
          have fromLeft := first leftSorted
          have fromRight := first rightSorted
          rcases Nat.lt_trichotomy leftEdge rightEdge with lower | same | higher
          · refine ⟨leftEdge, by simp, fromLeft, fun other member => ?_, ?_, ?_⟩
            · have bound := fromRight other member
              omega
            · simp [takeEdge, Nat.ne_of_gt lower]
            · simp only [takeEdge, mergeEdges, if_pos lower, if_true,
                if_neg (Nat.ne_of_gt lower)]
              split <;> simp [*]
          · rcases same with rfl
            refine ⟨leftEdge, by simp, fromLeft, fromRight, ?_, ?_⟩
            · simp [takeEdge]
              omega
            · simp only [takeEdge, mergeEdges, Nat.lt_irrefl, if_false, if_true]
              split <;> simp [*]
          · refine ⟨rightEdge, by simp, fun other member => ?_, fromRight, ?_, ?_⟩
            · have bound := fromLeft other member
              omega
            · simp [takeEdge, Nat.ne_of_gt higher]
            · simp only [takeEdge, mergeEdges, if_pos higher, if_true,
                if_neg (Nat.lt_asymm higher), if_neg (Nat.ne_of_gt higher)]
              split <;> simp [*]

section

variable {combined : Bool → Bool → Bool} {fuel : Nat}
  {inLeft inRight within : Bool} {left right : List Nat}

/-- What one step leaves of both sets lies past the edge that it takes, and
the walks go on there. -/
theorem mergeEdges_succ (leftSorted : Ascending left)
    (rightSorted : Ascending right) (remain : ¬ (left = [] ∧ right = [])) :
    ∃ edge inLeft' left' inRight' right',
      (edge ∈ left ∨ edge ∈ right) ∧ left' ⊆ left ∧ right' ⊆ right ∧
        Ascending (edge :: left') ∧ Ascending (edge :: right') ∧
        left'.length + right'.length < left.length + right.length ∧
        (∀ code, inside inLeft left code =
          if edge ≤ code then inside inLeft' left' code else inLeft) ∧
        (∀ code, inside inRight right code =
          if edge ≤ code then inside inRight' right' code else inRight) ∧
        mergeEdges combined (fuel + 1) inLeft inRight within left right =
          (if combined inLeft' inRight' == within then [] else [edge]) ++
            mergeEdges combined fuel inLeft' inRight'
              (combined inLeft' inRight') left' right' := by
  rcases mergeEdges_succ_eq combined fuel inLeft inRight within leftSorted
    rightSorted (by tauto) with ⟨edge, member, least, least', fewer, step⟩
  exact ⟨edge, _, _, _, _, member, takeEdge_subset, takeEdge_subset,
    ascending_takeEdge leftSorted least, ascending_takeEdge rightSorted least',
    fewer, inside_takeEdge leftSorted least, inside_takeEdge rightSorted least',
    step⟩

/-- The merged edges are edges of either set. -/
theorem mem_of_mem_mergeEdges (leftSorted : Ascending left)
    (rightSorted : Ascending right) {edge : Nat}
    (member : edge ∈ mergeEdges combined fuel inLeft inRight within left right) :
    edge ∈ left ∨ edge ∈ right := by
  induction fuel generalizing inLeft inRight within left right with
  | zero => simp [mergeEdges] at member
  | succ fuel ih =>
      by_cases exhausted : left = [] ∧ right = []
      · rcases exhausted with ⟨rfl, rfl⟩
        simp [mergeEdges] at member
      · rcases @mergeEdges_succ combined fuel inLeft inRight within _ _
          leftSorted rightSorted exhausted with
          ⟨taken, _, left', _, right', here, inLeft', inRight', sorted,
            sorted', -, -, -, step⟩
        rw [step] at member
        rcases List.mem_append.mp member with kept | later
        · split at kept
          · cases kept
          · rcases List.mem_singleton.mp kept with rfl
            exact here
        · rcases ih sorted.of_cons sorted'.of_cons later with old | old
          · exact Or.inl (inLeft' old)
          · exact Or.inr (inRight' old)

theorem ascending_mergeEdges (leftSorted : Ascending left)
    (rightSorted : Ascending right) :
    Ascending (mergeEdges combined fuel inLeft inRight within left right) := by
  induction fuel generalizing inLeft inRight within left right with
  | zero => simp [mergeEdges]
  | succ fuel ih =>
      by_cases exhausted : left = [] ∧ right = []
      · rcases exhausted with ⟨rfl, rfl⟩
        simp [mergeEdges]
      · rcases @mergeEdges_succ combined fuel inLeft inRight within _ _
          leftSorted rightSorted exhausted with
          ⟨taken, inLeft', left', inRight', right', -, -, -, sorted, sorted',
            -, -, -, step⟩
        have rest := @ih inLeft' inRight' (combined inLeft' inRight') _ _
          sorted.of_cons sorted'.of_cons
        rw [step]
        split
        · exact rest
        · refine List.pairwise_cons.mpr ⟨fun other later => ?_, rest⟩
          rcases mem_of_mem_mergeEdges sorted.of_cons sorted'.of_cons later with
            old | old
          · exact List.rel_of_pairwise_cons sorted old
          · exact List.rel_of_pairwise_cons sorted' old

/-- The walk along the merged edges keeps pace with the walks along both. -/
theorem inside_mergeEdges (leftSorted : Ascending left)
    (rightSorted : Ascending right)
    (enough : left.length + right.length ≤ fuel)
    (start : within = combined inLeft inRight) (code : Nat) :
    inside within (mergeEdges combined fuel inLeft inRight within left right)
        code =
      combined (inside inLeft left code) (inside inRight right code) := by
  induction fuel generalizing inLeft inRight within left right with
  | zero =>
      have exhausted : left = [] ∧ right = [] := by
        simpa [← List.length_eq_zero_iff] using enough
      rcases exhausted with ⟨rfl, rfl⟩
      simpa [mergeEdges, inside] using start
  | succ fuel ih =>
      by_cases exhausted : left = [] ∧ right = []
      · rcases exhausted with ⟨rfl, rfl⟩
        simpa [mergeEdges, inside] using start
      · have merged := @ascending_mergeEdges combined (fuel + 1) inLeft inRight
          within _ _ leftSorted rightSorted
        rcases @mergeEdges_succ combined fuel inLeft inRight within _ _
          leftSorted rightSorted exhausted with
          ⟨edge, inLeft', left', inRight', right', -, -, -, sorted, sorted',
            fewer, fromLeft, fromRight, step⟩
        have rest := @ih inLeft' inRight' _ left' right' sorted.of_cons
          sorted'.of_cons (by omega) rfl
        rw [step, fromLeft, fromRight]
        by_cases reached : edge ≤ code
        · rw [if_pos reached, if_pos reached, ← rest]
          split
          · next same => rw [eq_of_beq same, List.nil_append]
          · next apart =>
              rw [List.singleton_append, inside, if_pos reached,
                Bool.eq_not_of_ne fun same => apart (beq_iff_eq.mpr same)]
        · rw [if_neg reached, if_neg reached, ← start]
          -- Nothing that is merged lies before the edge that is taken first.
          apply inside_of_forall_lt
          intro other member
          rcases List.mem_append.mp member with kept | later
          · split at kept
            · cases kept
            · rcases List.mem_singleton.mp kept with rfl
              omega
          · rcases mem_of_mem_mergeEdges sorted.of_cons sorted'.of_cons later
              with old | old
            · have bound := List.rel_of_pairwise_cons sorted old
              omega
            · have bound := List.rel_of_pairwise_cons sorted' old
              omega

end

namespace CodeSet

/-! ## Sets -/

/-- One more than the last code point. -/
def codeBound : Nat := 0x110000

/-- The edges of a set ascend and lie among the code points, and nothing past
them is a member. -/
structure IsProper (set : CodeSet) : Prop where
  ascending : Ascending set.edges.toList
  bounded : ∀ edge ∈ set.edges.toList, edge ≤ codeBound
  closed : inside false set.edges.toList codeBound = false

/-- Ascending numbers up to a bound are no more than there are. -/
theorem length_le_of_ascending {edges : List Nat} {low bound : Nat}
    (sorted : Ascending edges) (above : ∀ edge ∈ edges, low ≤ edge)
    (bounded : ∀ edge ∈ edges, edge < bound) (ordered : low ≤ bound) :
    edges.length ≤ bound - low := by
  induction edges generalizing low with
  | nil => exact Nat.zero_le _
  | cons edge rest ih =>
      have here := bounded edge List.mem_cons_self
      have start := above edge List.mem_cons_self
      have later := @ih (edge + 1) sorted.of_cons
        (fun other member => List.rel_of_pairwise_cons sorted member)
        (fun other member => bounded other (List.mem_cons_of_mem _ member))
        here
      rw [List.length_cons]
      omega

theorem isPast_of_le {edges : List Nat} (sorted : Ascending edges)
    {code low high : Nat} (ordered : low ≤ high)
    (past : isPast edges code low = true) : isPast edges code high = true := by
  unfold isPast at past ⊢
  cases later : edges[high]? with
  | none => rfl
  | some second =>
      obtain ⟨within, rfl⟩ := List.getElem?_eq_some_iff.mp later
      rw [List.getElem?_eq_getElem (Nat.lt_of_le_of_lt ordered within)] at past
      have bound : code < edges[low] := of_decide_eq_true past
      rcases Nat.eq_or_lt_of_le ordered with rfl | apart
      · exact decide_eq_true bound
      · have further := List.pairwise_iff_getElem.mp sorted low high
          (Nat.lt_trans apart within) within apart
        exact decide_eq_true (Nat.lt_trans bound further)

/-- Membership is found by walking along the edges. -/
theorem IsProper.contains_eq {set : CodeSet} (proper : set.IsProper)
    (code : Nat) :
    set.contains code = inside false set.edges.toList code := by
  have few : set.edges.toList.length ≤ codeBound + 1 :=
    length_le_of_ascending proper.ascending
      (fun edge _ => Nat.zero_le edge)
      (fun edge member => Nat.lt_succ_of_le (proper.bounded edge member))
      (Nat.zero_le _)
  have halved : set.contains code =
      (halve (isPast set.edges.toList code) 32 0 set.edges.toList.length % 2 ==
        1) := by
    rw [contains, Array.length_toList]
    congr 3
    funext index
    exact congrArg (liesBefore code) Array.getElem?_toList.symm
  have found (index : Nat) : isPast set.edges.toList code index = true ↔
      halve (isPast set.edges.toList code) 32 0 set.edges.toList.length ≤
        index := by
    apply halve_spec fun _ _ => isPast_of_le proper.ascending
    · unfold codeBound at few
      omega
    · exact Nat.zero_le _
    · intro index early
      cases early
    · intro index late
      rw [isPast, List.getElem?_eq_none late, liesBefore]
  rw [halved, inside_eq_of_isPast found, Bool.false_bne]

theorem isProper_empty : empty.IsProper where
  ascending := List.Pairwise.nil
  bounded := by simp [empty]
  closed := rfl

theorem isProper_single {code : Nat} (within : code < codeBound) :
    (single code).IsProper where
  ascending := by simp [single, between, ofEdges]
  bounded := by
    simp only [single, between, Nat.le_refl, if_true, ofEdges]
    simp
    omega
  closed := by
    simp only [single, between, Nat.le_refl, if_true, ofEdges, inside]
    rw [if_pos, if_pos]
    · rfl
    · omega
    · omega

theorem contains_single {code : Nat} (within : code < codeBound) (other : Nat) :
    (single code).contains other = true ↔ other = code := by
  rw [(isProper_single within).contains_eq]
  simp only [single, between, Nat.le_refl, if_true, ofEdges, inside]
  split
  · split
    · simp
      omega
    · simp
      omega
  · simp
    omega

theorem isProper_combine {combined : Bool → Bool → Bool} {left right : CodeSet}
    (neither : combined false false = false) (leftProper : left.IsProper)
    (rightProper : right.IsProper) :
    (combine combined left right).IsProper where
  ascending := ascending_mergeEdges leftProper.ascending rightProper.ascending
  bounded := by
    intro edge member
    rcases mem_of_mem_mergeEdges leftProper.ascending rightProper.ascending
      member with old | old
    · exact leftProper.bounded edge old
    · exact rightProper.bounded edge old
  closed := by
    refine (inside_mergeEdges leftProper.ascending rightProper.ascending
      (by simp) neither.symm codeBound).trans ?_
    rw [leftProper.closed, rightProper.closed, neither]

/-- Membership in a combination of sets. -/
theorem contains_combine {combined : Bool → Bool → Bool} {left right : CodeSet}
    (neither : combined false false = false) (leftProper : left.IsProper)
    (rightProper : right.IsProper) (code : Nat) :
    (combine combined left right).contains code =
      combined (left.contains code) (right.contains code) := by
  rw [(isProper_combine neither leftProper rightProper).contains_eq,
    leftProper.contains_eq, rightProper.contains_eq]
  exact inside_mergeEdges leftProper.ascending rightProper.ascending
    (by simp) neither.symm code

/-! ## Unions -/

theorem isProper_union {left right : CodeSet} (leftProper : left.IsProper)
    (rightProper : right.IsProper) : (left.union right).IsProper :=
  isProper_combine rfl leftProper rightProper

theorem contains_union {left right : CodeSet} (leftProper : left.IsProper)
    (rightProper : right.IsProper) (code : Nat) :
    (left.union right).contains code = true ↔
      left.contains code = true ∨ right.contains code = true := by
  rw [union, contains_combine rfl leftProper rightProper, Bool.or_eq_true]

/-- Some set of several holds a code point. -/
def AnyContains (sets : List CodeSet) (code : Nat) : Prop :=
  ∃ set ∈ sets, set.contains code = true

theorem not_anyContains_nil (code : Nat) : ¬ AnyContains [] code := by
  rintro ⟨set, member, -⟩
  cases member

theorem anyContains_cons {set : CodeSet} {sets : List CodeSet} {code : Nat} :
    AnyContains (set :: sets) code ↔
      set.contains code = true ∨ AnyContains sets code := by
  simp only [AnyContains, List.mem_cons, or_and_right, exists_or,
    exists_eq_left]

theorem isProper_of_mem_uniteNeighbours :
    ∀ {sets : List CodeSet}, (∀ set ∈ sets, set.IsProper) →
      ∀ set ∈ uniteNeighbours sets, set.IsProper
  | [], _, set, member => by cases member
  | [only], proper, set, member => proper set member
  | left :: right :: rest, proper, set, member => by
      simp only [List.forall_mem_cons] at proper
      rcases proper with ⟨leftProper, rightProper, others⟩
      rcases List.mem_cons.mp member with rfl | later
      · exact isProper_union leftProper rightProper
      · exact isProper_of_mem_uniteNeighbours others set later

theorem anyContains_uniteNeighbours :
    ∀ {sets : List CodeSet}, (∀ set ∈ sets, set.IsProper) → ∀ code,
      AnyContains (uniteNeighbours sets) code ↔ AnyContains sets code
  | [], _, _ => Iff.rfl
  | [_], _, _ => Iff.rfl
  | left :: right :: rest, proper, code => by
      simp only [List.forall_mem_cons] at proper
      rcases proper with ⟨leftProper, rightProper, others⟩
      simp only [uniteNeighbours, anyContains_cons, or_assoc,
        contains_union leftProper rightProper,
        anyContains_uniteNeighbours others code]

theorem length_uniteNeighbours :
    ∀ sets : List CodeSet, 2 * (uniteNeighbours sets).length ≤ sets.length + 1
  | [] => Nat.zero_le _
  | [_] => Nat.le_refl _
  | left :: right :: rest => by
      have later := length_uniteNeighbours rest
      simp only [uniteNeighbours, List.length_cons]
      omega

/-- A set is the union of several. -/
structure IsUnion (united : CodeSet) (sets : List CodeSet) : Prop where
  proper : united.IsProper
  contains_iff : ∀ code,
    united.contains code = true ↔ AnyContains sets code

theorem isUnion_nil : IsUnion empty [] where
  proper := isProper_empty
  contains_iff := by
    intro code
    rw [isProper_empty.contains_eq]
    exact iff_of_false Bool.false_ne_true (not_anyContains_nil code)

theorem isUnion_singleton {set : CodeSet} (proper : set.IsProper) :
    IsUnion set [set] where
  proper := proper
  contains_iff := by
    intro code
    rw [anyContains_cons, or_iff_left (not_anyContains_nil code)]

theorem isUnion_uniteRounds {rounds : Nat} {sets : List CodeSet}
    (enough : sets.length ≤ rounds + 1) (proper : ∀ set ∈ sets, set.IsProper) :
    IsUnion (uniteRounds rounds sets) sets := by
  induction rounds generalizing sets with
  | zero =>
      match sets with
      | [] => exact isUnion_nil
      | [set] => exact isUnion_singleton (proper set List.mem_cons_self)
      | _ :: _ :: _ =>
          simp only [List.length_cons] at enough
          omega
  | succ rounds ih =>
      match sets with
      | [] => exact isUnion_nil
      | [set] => exact isUnion_singleton (proper set List.mem_cons_self)
      | left :: right :: rest =>
          have halved := length_uniteNeighbours (left :: right :: rest)
          simp only [List.length_cons] at enough halved
          have united := @ih (uniteNeighbours (left :: right :: rest))
            (by omega) (isProper_of_mem_uniteNeighbours proper)
          exact ⟨united.proper, fun code => (united.contains_iff code).trans
            (anyContains_uniteNeighbours proper code)⟩

theorem isUnion_unionAll {sets : List CodeSet}
    (proper : ∀ set ∈ sets, set.IsProper) : IsUnion (unionAll sets) sets :=
  isUnion_uniteRounds (Nat.le_succ _) proper

section

variable {codes : List Nat}

theorem isProper_of_mem_map_single (within : ∀ code ∈ codes, code < codeBound) :
    ∀ set ∈ codes.map single, set.IsProper := by
  intro set member
  rcases List.mem_map.mp member with ⟨code, old, rfl⟩
  exact isProper_single (within code old)

theorem isProper_ofList (within : ∀ code ∈ codes, code < codeBound) :
    (ofList codes).IsProper :=
  (isUnion_unionAll (isProper_of_mem_map_single within)).proper

/-- The set of code points has exactly them as members. -/
theorem contains_ofList (within : ∀ code ∈ codes, code < codeBound)
    (code : Nat) : (ofList codes).contains code = true ↔ code ∈ codes := by
  rw [ofList,
    (isUnion_unionAll (isProper_of_mem_map_single within)).contains_iff]
  constructor
  · rintro ⟨set, member, holds⟩
    rcases List.mem_map.mp member with ⟨other, old, rfl⟩
    rw [contains_single (within other old)] at holds
    exact holds ▸ old
  · intro member
    exact ⟨single code, List.mem_map_of_mem member,
      (contains_single (within code member) code).mpr rfl⟩

end

/-- The sole member of a set is the only one. -/
theorem IsProper.eq_of_only? {set : CodeSet} (proper : set.IsProper)
    {sole code : Nat} (only : set.only? = some sole)
    (holds : set.contains code = true) : code = sole := by
  rw [proper.contains_eq] at holds
  have sorted := proper.ascending
  have bounded := proper.bounded
  have closed := proper.closed
  unfold only? ranges at only
  match edges : set.edges.toList with
  | [] | [_] =>
      rw [edges, rangesOfEdges] at only
      · cases only
      all_goals simp
  | [first, after] =>
      rw [edges] at only holds sorted
      have ordered := List.rel_of_pairwise_cons sorted List.mem_cons_self
      simp only [rangesOfEdges, Option.ite_none_right_eq_some,
        Option.some.injEq] at only
      have reached : first ≤ code := by
        by_contra early
        rw [inside, if_neg early] at holds
        cases holds
      have within : code < after := by
        by_contra late
        rw [inside, if_pos reached, inside, if_pos (Nat.not_lt.mp late)] at holds
        cases holds
      omega
  | [first, after, odd] =>
      -- A third edge would not be closed by a fourth.
      rw [edges] at bounded closed
      simp only [List.forall_mem_cons] at bounded
      rw [inside, if_pos bounded.1, inside, if_pos bounded.2.1, inside,
        if_pos bounded.2.2.1] at closed
      cases closed
  | first :: after :: next :: last :: rest =>
      rw [edges] at only
      simp only [rangesOfEdges] at only
      cases only

theorem contains_of_isEmpty {set : CodeSet} (vacant : set.isEmpty = true)
    (code : Nat) : set.contains code = false := by
  have nothing : set = empty := by
    rw [isEmpty, Array.isEmpty_iff] at vacant
    rcases set with ⟨edges⟩
    exact congrArg CodeSet.mk vacant
  rw [nothing, isProper_empty.contains_eq]
  rfl

end CodeSet

end DocQuery.Unicode
