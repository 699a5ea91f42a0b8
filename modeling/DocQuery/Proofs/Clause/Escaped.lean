import DocQuery.Clause.Like
import DocQuery.Pattern.Meaning
import DocQuery.Pattern.Parser
import Mathlib.Tactic.Common

/-!
# Reading escaped text

What the reader of patterns makes of a text after its special characters got a
backslash.  Every character stands for itself again, with two exceptions: a
bar and an opening brace get no backslash and keep their meaning.
-/

namespace DocQuery

open Pattern

namespace Like

/-- The character stands for itself in escaped text. -/
def IsPlain (character : Char) : Prop :=
  character ≠ '|' ∧ character ≠ '\x7b'

/-- A reader in front of the rest of a pattern that has no flags and no
groups. -/
def reader (rest : List Char) : Reader := ⟨rest, false, [], 0⟩

@[simp]
theorem settle_reader (rest : List Char) :
    (reader rest).settle = reader rest := rfl

@[simp]
theorem step_reader (character : Char) (rest : List Char) :
    (reader (character :: rest)).step = reader rest := rfl

@[simp]
theorem rest_reader (rest : List Char) : (reader rest).rest = rest := rfl

theorem length_le_length_escapeCharacters (text : List Char) :
    text.length ≤ (escapeCharacters text).length := by
  induction text with
  | nil => exact Nat.le_refl _
  | cons character rest ih =>
      unfold escapeCharacters
      split
      · simp only [List.length_cons]
        omega
      · simp only [List.length_cons]
        omega

/-! ## Single characters -/

/-- A special character stands for itself after a backslash. -/
theorem escape?_of_escaped {character : Char} (rest : List Char)
    (special : character ∈ escaped) :
    escape? (reader ('\\' :: character :: rest)) =
      some (.literal character false, reader rest) := by
  simp only [escaped, List.mem_cons, List.not_mem_nil, or_false] at special
  rcases special with
    rfl | rfl | rfl | rfl | rfl | rfl | rfl | rfl | rfl | rfl | rfl
  all_goals rfl

section

variable {character : Char} {rest tail : List Char}

theorem escapeCharacters_of_escaped (special : character ∈ escaped) :
    escapeCharacters (character :: rest) =
      '\\' :: character :: escapeCharacters rest := by
  simp [escapeCharacters, special]

theorem escapeCharacters_of_not_escaped (ordinary : character ∉ escaped) :
    escapeCharacters (character :: rest) =
      character :: escapeCharacters rest := by
  simp [escapeCharacters, ordinary]

/-- A plain character of escaped text is read as itself. -/
theorem branches?_of_isPlain (plain : IsPlain character) (fuel : Nat)
    (branches items : List Tree) :
    branches? (fuel + 1) branches items
        (reader (escapeCharacters (character :: rest) ++ tail)) =
      branches? fuel branches (.literal character false :: items)
        (reader (escapeCharacters rest ++ tail)) := by
  by_cases special : character ∈ escaped
  · rw [escapeCharacters_of_escaped special, branches?]
    simp only [settle_reader, List.cons_append, rest_reader,
      escape?_of_escaped _ special]
    rfl
  · rw [escapeCharacters_of_not_escaped special, branches?]
    simp only [settle_reader, List.cons_append, rest_reader, step_reader]
    simp only [escaped, List.mem_cons, not_or] at special
    obtain ⟨bar, brace⟩ := plain
    split
    case h_14 => 
      next same =>
        rcases List.cons.inj same with ⟨rfl, -⟩
        rfl
    all_goals simp_all

end

/-- The items that stand for the characters of a text. -/
def textItems (text : List Char) : List Tree :=
  text.map fun character => .literal character false

/-- Plain text is read as its characters, one after the other. -/
theorem branches?_of_forall_isPlain {text : List Char}
    (plain : ∀ character ∈ text, IsPlain character) (fuel : Nat)
    (branches items : List Tree) (tail : List Char) :
    branches? (fuel + text.length) branches items
        (reader (escapeCharacters text ++ tail)) =
      branches? fuel branches ((textItems text).reverse ++ items)
        (reader tail) := by
  induction text generalizing items with
  | nil => rfl
  | cons character rest ih =>
      rcases List.forall_mem_cons.mp plain with ⟨here, later⟩
      rw [List.length_cons, ← Nat.add_assoc, branches?_of_isPlain here,
        ih later]
      simp [textItems]

/-! ## Anchors -/

/-- A mark at an end that is not open. -/
def anchor {Mark : Type} (isOpen : Bool) (mark : Mark) : List Mark :=
  if isOpen then [] else [mark]

theorem mem_anchor {Mark : Type} {isOpen : Bool} {mark other : Mark} :
    other ∈ anchor isOpen mark ↔ isOpen = false ∧ other = mark := by
  cases isOpen <;> simp [anchor]

theorem reverse_anchor {Mark : Type} (isOpen : Bool) (mark : Mark) :
    (anchor isOpen mark).reverse = anchor isOpen mark := by
  cases isOpen <;> rfl

theorem forall₂_anchor {Left Right : Type} {relation : Left → Right → Prop}
    {left : Left} {right : Right} (related : relation left right)
    (isOpen : Bool) :
    List.Forall₂ relation (anchor isOpen left) (anchor isOpen right) := by
  cases isOpen with
  | true => exact .nil
  | false => exact .cons related .nil

variable (options : LikeOptions)

/-- What stands in front of the escaped text. -/
def opening : List Char := anchor options.startOpen '^'

/-- What stands behind the escaped text. -/
def closing : List Char := anchor options.endOpen '$'

/-- The items that are read from the front. -/
def openingItems : List Tree :=
  anchor options.startOpen (.assertion .lineStart)

/-- The items that are read from the end. -/
def closingItems : List Tree :=
  anchor options.endOpen (.assertion .lineEnd)

theorem toList_pattern (text : String) :
    (pattern text options).pattern.toList =
      opening options ++
        (escapeCharacters (Text.trimBlank text.toList) ++ closing options) := by
  unfold pattern opening closing
  cases options.startOpen <;> cases options.endOpen <;> simp [anchor]

theorem branches?_opening (fuel : Nat) (rest : List Char) :
    branches? (fuel + (opening options).length) [] []
        (reader (opening options ++ rest)) =
      branches? fuel [] (openingItems options) (reader rest) := by
  unfold opening openingItems
  cases options.startOpen with
  | true => rfl
  | false =>
      simp only [anchor, Bool.false_eq_true, if_false, List.singleton_append,
        List.length_singleton]
      rw [branches?]
      rfl

theorem branches?_closing (fuel : Nat) (branches items : List Tree) :
    branches? (fuel + 1 + (closing options).length) branches items
        (reader (closing options)) =
      some (closeBranches branches (closingItems options ++ items),
        reader []) := by
  unfold closing closingItems
  cases options.endOpen with
  | true =>
      simp only [anchor, if_true, List.length_nil, Nat.add_zero]
      rw [branches?]
      rfl
  | false =>
      simp only [anchor, Bool.false_eq_true, if_false, List.length_singleton]
      rw [branches?]
      simp only [settle_reader, rest_reader, step_reader]
      rw [branches?]
      rfl

/-! ## Whole patterns -/

theorem depthOf_eq_zero {items : List Tree}
    (flat : ∀ item ∈ items, item.depth = 0) : Tree.depthOf items = 0 := by
  induction items with
  | nil => rfl
  | cons item rest ih =>
      rcases List.forall_mem_cons.mp flat with ⟨here, later⟩
      rw [Tree.depthOf, here, ih later, Nat.max_self]

theorem depth_ofItems_le {items : List Tree}
    (flat : ∀ item ∈ items, item.depth = 0) :
    (Tree.ofItems items).depth ≤ maxDepth := by
  unfold Tree.ofItems
  split
  · simp [Tree.depth]
  · next item => simp [flat item]
  · rw [Tree.depth, depthOf_eq_zero flat]
    simp [maxDepth]

/-- The items of a plain text between the anchors. -/
def items (text : List Char) : List Tree :=
  openingItems options ++ (textItems text ++ closingItems options)

theorem depth_of_mem_items {text : List Char} {item : Tree}
    (member : item ∈ items options text) : item.depth = 0 := by
  simp only [items, openingItems, closingItems, List.mem_append, mem_anchor]
    at member
  rcases member with ⟨-, rfl⟩ | character | ⟨-, rfl⟩
  · simp only [Tree.depth]
  · rcases List.mem_map.mp character with ⟨_, -, rfl⟩
    simp only [Tree.depth]
  · simp only [Tree.depth]

/-- A plain text is read as the sequence of its characters between the
anchors. -/
theorem parse?_of_forall_isPlain {text : String}
    (plain : ∀ character ∈ Text.trimBlank text.toList, IsPlain character) :
    parse? false (pattern text options).pattern =
      some (Tree.ofItems (items options (Text.trimBlank text.toList))) := by
  obtain ⟨extra, long⟩ := Nat.exists_eq_add_of_le
    (length_le_length_escapeCharacters (Text.trimBlank text.toList))
  have fuel : (pattern text options).pattern.toList.length + 1 =
      extra + 1 + (closing options).length +
        (Text.trimBlank text.toList).length + (opening options).length := by
    rw [toList_pattern, List.length_append, List.length_append, long]
    omega
  have read : branches? ((pattern text options).pattern.toList.length + 1) [] []
      (reader (pattern text options).pattern.toList) =
        some (Tree.ofItems (items options (Text.trimBlank text.toList)),
          reader []) := by
    rw [fuel, toList_pattern, branches?_opening,
      branches?_of_forall_isPlain plain, branches?_closing, closeBranches,
      items]
    simp [openingItems, closingItems, reverse_anchor]
  have shallow : (Tree.ofItems (items options
      (Text.trimBlank text.toList))).depth ≤ maxDepth :=
    depth_ofItems_le fun _ => depth_of_mem_items options
  unfold reader at read
  simp only [parse?, read, bind, Option.bind_some, shallow, and_self, if_true]

end Like

end DocQuery
