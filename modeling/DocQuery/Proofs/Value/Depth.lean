import DocQuery.Proofs.Value.Agreement

/-!
# Depth of values

How deeply documents and arrays nest in a value.  A value is deeper than all
that it holds, and it equals nothing that is less deep: every part of it has
to equal a part of the other value.  So no value equals a part of itself, also
where documents repeat a name and equality could count one part twice.
-/

namespace DocQuery

namespace Value

mutual

/-- How deeply a value nests; what holds no values does not nest. -/
def depth : Value → Nat
  | .scopedCode _ scope => entriesDepth scope + 1
  | .array items => itemsDepth items + 1
  | .document entries => entriesDepth entries + 1
  | _ => 0

/-- The greatest depth among items. -/
def itemsDepth : List Value → Nat
  | [] => 0
  | item :: rest => max item.depth (itemsDepth rest)

/-- The greatest depth among named values. -/
def entriesDepth : List (String × Value) → Nat
  | [] => 0
  | (_, value) :: rest => max value.depth (entriesDepth rest)

end

theorem depth_le_itemsDepth {item : Value} {items : List Value}
    (member : item ∈ items) : item.depth ≤ itemsDepth items := by
  induction items with
  | nil => cases member
  | cons first rest ih =>
      rw [itemsDepth]
      rcases List.mem_cons.mp member with rfl | later
      · exact Nat.le_max_left ..
      · exact Nat.le_trans (ih later) (Nat.le_max_right ..)

theorem depth_le_entriesDepth {entry : String × Value} {entries : Document}
    (member : entry ∈ entries) : entry.2.depth ≤ entriesDepth entries := by
  induction entries with
  | nil => cases member
  | cons first rest ih =>
      rw [entriesDepth]
      rcases List.mem_cons.mp member with rfl | later
      · exact Nat.le_max_left ..
      · exact Nat.le_trans (ih later) (Nat.le_max_right ..)

/-- An item is less deep than its array. -/
theorem depth_lt_array {item : Value} {items : List Value}
    (member : item ∈ items) : item.depth < (array items).depth := by
  rw [depth]
  exact Nat.lt_succ_of_le (depth_le_itemsDepth member)

/-- What stands in a document is less deep than the document. -/
theorem depth_lt_document {entry : String × Value} {entries : Document}
    (member : entry ∈ entries) : entry.2.depth < (document entries).depth := by
  rw [depth]
  exact Nat.lt_succ_of_le (depth_le_entriesDepth member)

-- The recursion is that of `equals`, on the first value.
mutual

/-- A value equals nothing that is less deep. -/
theorem depth_le_of_equals (left right : Value) :
    left.equals right = true → left.depth ≤ right.depth := by
  fun_cases equals left right
  case case13 text scope other otherScope =>
    intro equal
    simp only [Bool.and_eq_true] at equal
    simp only [depth]
    exact Nat.succ_le_succ
      (entriesDepth_le_of_equalsWithin scope otherScope equal.2)
  case case20 items others =>
    intro equal
    simp only [depth]
    exact Nat.succ_le_succ (itemsDepth_le_of_equalsEach items others equal)
  case case21 entries others =>
    intro equal
    simp only [Bool.and_eq_true] at equal
    simp only [depth]
    exact Nat.succ_le_succ
      (entriesDepth_le_of_equalsWithin entries others equal.2)
  case case22 => exact nofun
  -- Values of the remaining kinds do not nest.
  all_goals simp [depth]
termination_by sizeOf left

theorem itemsDepth_le_of_equalsEach (lefts rights : List Value) :
    equalsEach lefts rights = true → itemsDepth lefts ≤ itemsDepth rights := by
  fun_cases equalsEach lefts rights
  case case1 => exact fun _ => Nat.le_refl _
  case case2 left lefts right rights =>
    intro equal
    simp only [Bool.and_eq_true] at equal
    have first := depth_le_of_equals left right equal.1
    have others := itemsDepth_le_of_equalsEach lefts rights equal.2
    simp only [itemsDepth]
    exact Nat.max_le.mpr ⟨Nat.le_trans first (Nat.le_max_left ..),
      Nat.le_trans others (Nat.le_max_right ..)⟩
  case case3 => exact nofun
termination_by sizeOf lefts

theorem entriesDepth_le_of_equalsWithin (entries other : Document)
    (within : equalsWithin entries other = true) :
    entriesDepth entries ≤ entriesDepth other := by
  match entries with
  | [] => exact Nat.zero_le _
  | (name, value) :: rest =>
      simp only [equalsWithin, Bool.and_eq_true] at within
      have others := entriesDepth_le_of_equalsWithin rest other within.2
      cases foundAt : other.get? name with
      | none => simp [foundAt] at within
      | some found =>
          simp only [foundAt] at within
          have first := depth_le_of_equals value found within.1
          have inside :=
            depth_le_entriesDepth (Document.mem_of_get? foundAt)
          exact Nat.max_le.mpr ⟨Nat.le_trans first inside, others⟩
termination_by sizeOf entries

end

/-- A document does not agree with, nor contain, a value that is less deep. -/
theorem agreesOrContains_of_depth_lt {entries : Document} {operand : Value}
    (deeper : operand.depth < (document entries).depth) :
    (document entries).agreesOrContains operand = false := by
  rw [← Bool.not_eq_true]
  intro agree
  have equal : (document entries).equals operand = true := by
    simpa [agreesOrContains, agrees, isNumber] using agree
  exact Nat.not_le_of_gt deeper (depth_le_of_equals _ _ equal)

end Value

end DocQuery
