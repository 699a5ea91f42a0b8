import DocQuery.Proofs.Pattern.Spans
import DocQuery.Proofs.Unicode.CodeSet

/-!
# The normal form of expressions

Expressions are built in a normal form, and that does not take away what they
match.  A sequence whose parts are flattened and whose neighbouring literals
are joined matches exactly what the parts match one after the other.  A
repetition still matches a repeated word.  A choice matches what a branch of
it matches, also after single characters have become a set and after the items
that all branches begin with have been taken out; that is said for branches of
literals, places and repetitions.
-/

namespace DocQuery.Pattern

open Unicode

namespace Expression

variable {text : List Char} {first last : Nat}

/-! ## Sequences -/

theorem spansInOrder_append {before after : List Expression} :
    SpansInOrder text (before ++ after) first last ↔
      ∃ middle, SpansInOrder text before first middle ∧
        SpansInOrder text after middle last := by
  induction before generalizing first with
  | nil => simp [SpansInOrder]
  | cons item rest ih =>
      simp only [List.cons_append, SpansInOrder, ih]
      constructor
      · rintro ⟨next, here, middle, earlier, later⟩
        exact ⟨middle, ⟨next, here, earlier⟩, later⟩
      · rintro ⟨middle, ⟨next, here, earlier⟩, later⟩
        exact ⟨next, here, middle, earlier, later⟩

theorem spansInOrder_singleton {item : Expression} :
    SpansInOrder text [item] first last ↔ Spans text item first last := by
  simp [SpansInOrder]

/-- The items of an expression match what it matches. -/
theorem spansInOrder_items (expression : Expression) :
    SpansInOrder text expression.items first last ↔
      Spans text expression first last := by
  cases expression with
  | empty => simp [items, SpansInOrder, Spans]
  | sequence items => simp only [Expression.items, Spans]
  | literal | oneOf | place | repetition | capture | choice =>
      exact spansInOrder_singleton

theorem spansInOrder_flatMap_items (expressions : List Expression) :
    SpansInOrder text (expressions.flatMap items) first last ↔
      SpansInOrder text expressions first last := by
  induction expressions generalizing first with
  | nil => simp
  | cons expression rest ih =>
      simp only [List.flatMap_cons, spansInOrder_append, spansInOrder_items,
        ih, SpansInOrder]

theorem spans_literal_append {left right : List Char} :
    Spans text (.literal (left ++ right)) first last ↔
      ∃ middle, Spans text (.literal left) first middle ∧
        Spans text (.literal right) middle last := by
  induction left generalizing first with
  | nil => simp [Spans]
  | cons character rest ih =>
      simp only [List.cons_append, spans_literal_cons, ih]
      constructor
      · rintro ⟨next, here, middle, earlier, later⟩
        exact ⟨middle, ⟨next, here, earlier⟩, later⟩
      · rintro ⟨middle, ⟨next, here, earlier⟩, later⟩
        exact ⟨next, here, middle, earlier, later⟩

theorem spansInOrder_joinLiterals (expressions : List Expression) :
    SpansInOrder text (joinLiterals expressions) first last ↔
      SpansInOrder text expressions first last := by
  induction expressions generalizing first with
  | nil => simp [joinLiterals]
  | cons item rest ih =>
      unfold joinLiterals
      split
      · cases ‹_ :: _ = _›
      · next characters others same =>
          rcases List.cons.inj same with ⟨rfl, rfl⟩
          split
          · next more later joined =>
              simp only [SpansInOrder, ← ih, joined, spans_literal_append]
              constructor
              · rintro ⟨next, ⟨middle, here, further⟩, onward⟩
                exact ⟨middle, here, next, further, onward⟩
              · rintro ⟨middle, here, next, further, onward⟩
                exact ⟨next, ⟨middle, here, further⟩, onward⟩
          · simp only [SpansInOrder, ih]
      · next same =>
          rcases List.cons.inj same with ⟨rfl, rfl⟩
          simp only [SpansInOrder, ih]

/-- A sequence matches what its parts match one after the other. -/
theorem spans_joined_iff (expressions : List Expression) :
    Spans text (joined expressions) first last ↔
      SpansInOrder text expressions first last := by
  rw [← spansInOrder_flatMap_items, ← spansInOrder_joinLiterals, joined]
  split
  · next empty => simp only [empty, Spans, SpansInOrder]
  · next item single => rw [single, spansInOrder_singleton]
  · simp only [Spans]

/-! ## Repetitions -/

/-- The expression matches a word wherever it stands, or only at the start of
a text. -/
def Matches (anchored : Bool) (word : List Char) (expression : Expression) :
    Prop :=
  ∀ before after, (anchored = true → before = []) →
    Spans (before ++ (word ++ after)) expression before.length
      (before.length + word.length)

section

variable {anchored : Bool} {word : List Char} {expression : Expression}

theorem Matches.times (found : Matches anchored word expression)
    (still : anchored = true → word = []) (count : Nat)
    {before after : List Char} (start : anchored = true → before = []) :
    Times (Spans (before ++ ((List.replicate count word).flatten ++ after))
        expression) count before.length
      (before.length + (List.replicate count word).flatten.length) := by
  induction count generalizing before with
  | zero => rfl
  | succ count ih =>
      have here := found before ((List.replicate count word).flatten ++ after)
        start
      have later := @ih (before ++ word) fun fixed => by
        rw [start fixed, still fixed, List.append_nil]
      simp only [List.replicate_succ, List.flatten_cons, List.append_assoc,
        List.length_append, ← Nat.add_assoc] at later ⊢
      exact ⟨_, here, later⟩

/-- A repetition matches a repeated word. -/
theorem Matches.repeated (found : Matches anchored word expression)
    (still : anchored = true → word = []) (least : Nat) (most : Option Nat)
    (greedy : Bool) :
    ∃ count, Matches anchored (List.replicate count word).flatten
      (Expression.repeated least most greedy expression) := by
  unfold Expression.repeated
  split
  next least most _ =>
    split
    · refine ⟨0, fun before after _ => ?_⟩
      simp [Spans]
    · split
      · refine ⟨1, fun before after start => ?_⟩
        simpa using found before after start
      · refine ⟨least, fun before after start => ?_⟩
        simp only [Spans]
        exact ⟨least, Nat.le_refl _, fun bound _ => Nat.le_max_left _ _,
          found.times still least start⟩

end

/-! ## Choices -/

mutual

theorem eq_of_same : ∀ {left right : Expression},
    same left right = true → left = right
  | left, right, alike => by
      cases left <;> cases right <;>
        simp only [same, Bool.and_eq_true, beq_iff_eq, Bool.false_eq_true]
          at alike
      case empty.empty => rfl
      case literal.literal => rw [alike]
      case oneOf.oneOf => rw [alike.1, alike.2]
      case place.place => rw [alike]
      case repetition.repetition =>
        rcases alike with ⟨⟨⟨least, most⟩, greedy⟩, body⟩
        rw [least, most, greedy, eq_of_same body]
      case capture.capture => rw [alike.1, eq_of_same alike.2]
      case sequence.sequence => rw [eq_of_sameAll alike]
      case choice.choice => rw [eq_of_sameAll alike]

theorem eq_of_sameAll : ∀ {lefts rights : List Expression},
    sameAll lefts rights = true → lefts = rights
  | [], [], _ => rfl
  | left :: lefts, right :: rights, alike => by
      rw [sameAll, Bool.and_eq_true] at alike
      rw [eq_of_same alike.1, eq_of_sameAll alike.2]
end

/-- An expression for one character of a set. -/
theorem spans_ofSet {bytes : Bool} {set : CodeSet} (proper : set.IsProper)
    {character : Char} (here : text[first]? = some character)
    (holds : set.contains character.toNat = true) :
    Spans text (ofSet bytes set) first (first + 1) := by
  unfold ofSet
  split
  · next vacant =>
      rw [CodeSet.contains_of_isEmpty vacant] at holds
      cases holds
  · split
    · next code only =>
        have sole := proper.eq_of_only? only holds
        rw [← sole, Char.ofNat_toNat, spans_literal_singleton]
        exact ⟨⟨character, here, beq_self_eq_true character⟩, rfl⟩
    · simp only [Spans]
      exact ⟨⟨character, here, holds⟩, rfl⟩

/-- A part of a sequence that is neither a set nor made of others that could
be taken apart. -/
inductive IsAtom : Expression → Prop where
  | literal (characters : List Char) : IsAtom (.literal characters)
  | place (kind : Place) : IsAtom (.place kind)
  | repetition (least : Nat) (most : Option Nat) (greedy : Bool)
      (body : Expression) : IsAtom (.repetition least most greedy body)

/-- All items of the expression are atoms. -/
def IsFlat (expression : Expression) : Prop :=
  ∀ item ∈ expression.items, IsAtom item

theorem IsAtom.items_eq {item : Expression} (atom : IsAtom item) :
    item.items = [item] := by
  cases atom <;> rfl

theorem IsAtom.isFlat {item : Expression} (atom : IsAtom item) :
    IsFlat item := by
  intro other member
  rw [atom.items_eq] at member
  exact List.mem_singleton.mp member ▸ atom

theorem isFlat_empty : IsFlat .empty := by
  intro item member
  cases member

theorem isAtom_of_mem_joinLiterals {items : List Expression}
    (atoms : ∀ item ∈ items, IsAtom item) :
    ∀ item ∈ joinLiterals items, IsAtom item := by
  induction items with
  | nil =>
      intro item member
      cases member
  | cons first rest ih =>
      rcases List.forall_mem_cons.mp atoms with ⟨here, later⟩
      have others := ih later
      unfold joinLiterals
      split
      · cases ‹_ :: _ = _›
      · next characters rest' same =>
          rcases List.cons.inj same with ⟨rfl, rfl⟩
          split
          · next more last joined =>
              rw [joined] at others
              exact List.forall_mem_cons.mpr ⟨.literal _,
                (List.forall_mem_cons.mp others).2⟩
          · exact List.forall_mem_cons.mpr ⟨.literal _, others⟩
      · next same =>
          rcases List.cons.inj same with ⟨rfl, rfl⟩
          exact List.forall_mem_cons.mpr ⟨here, others⟩

theorem isFlat_joined {expressions : List Expression}
    (flat : ∀ expression ∈ expressions, IsFlat expression) :
    IsFlat (joined expressions) := by
  have atoms : ∀ item ∈ joinLiterals (expressions.flatMap items),
      IsAtom item := by
    apply isAtom_of_mem_joinLiterals
    intro item member
    rcases List.mem_flatMap.mp member with ⟨expression, old, inside⟩
    exact flat expression old item inside
  rw [joined]
  split
  · exact isFlat_empty
  · next item single =>
      rw [single] at atoms
      exact (atoms item List.mem_cons_self).isFlat
  · exact atoms

theorem isFlat_repeated {expression : Expression} (flat : IsFlat expression)
    (least : Nat) (most : Option Nat) (greedy : Bool) :
    IsFlat (Expression.repeated least most greedy expression) := by
  unfold Expression.repeated
  split
  split
  · exact isFlat_empty
  · split
    · exact flat
    · exact (IsAtom.repetition _ _ _ _).isFlat

theorem IsFlat.branches_eq {expression : Expression} (flat : IsFlat expression) :
    expression.branches = [expression] := by
  cases expression with
  | choice branches => cases flat _ List.mem_cons_self
  | empty | literal | oneOf | place | repetition | capture | sequence => rfl

theorem IsFlat.set?_eq {expression : Expression} (flat : IsFlat expression) :
    expression.set? = none := by
  cases expression with
  | oneOf bytes set => cases flat _ List.mem_cons_self
  | empty | literal | choice | place | repetition | capture | sequence => rfl

theorem exists_of_mapM_eq_some {Item Result : Type} {given : Item → Option Result}
    {items : List Item} {results : List Result}
    (all : items.mapM given = some results) {item : Item}
    (member : item ∈ items) : ∃ result ∈ results, given item = some result := by
  induction items generalizing results with
  | nil => cases member
  | cons first rest ih =>
      simp only [List.mapM_cons, bind, pure, Option.bind_eq_some_iff,
        Option.some.injEq] at all
      rcases all with ⟨result, here, others, later, rfl⟩
      rcases List.mem_cons.mp member with rfl | inRest
      · exact ⟨result, List.mem_cons_self, here⟩
      · rcases ih later inRest with ⟨found, inOthers, given⟩
        exact ⟨found, List.mem_cons_of_mem _ inOthers, given⟩

theorem eq_literal_of_character? {expression : Expression} {character : Char}
    (single : expression.character? = some character) :
    expression = .literal [character] := by
  unfold character? at single
  split at single
  · rw [Option.some.inj single]
  · cases single

theorem toNat_lt_codeBound (character : Char) :
    character.toNat < CodeSet.codeBound := by
  have valid := character.valid
  simp only [UInt32.isValidChar, Nat.isValidChar] at valid
  unfold CodeSet.codeBound
  show character.val.toNat < 0x110000
  omega

variable {branch : Expression} {branches : List Expression}

/-- The set of single characters matches what one of them matches. -/
theorem spans_choiceSet? {set : Expression}
    (found : choiceSet? branches = some set) (member : branch ∈ branches)
    (noSet : branch.set? = none) (spans : Spans text branch first last) :
    Spans text set first last := by
  unfold choiceSet? at found
  split at found
  · next characters all =>
      rcases exists_of_mapM_eq_some all member with ⟨character, among, single⟩
      rcases Option.some.inj found with rfl
      rw [eq_literal_of_character? single, spans_literal_singleton] at spans
      rcases spans with ⟨⟨here, there, same⟩, rfl⟩
      rcases eq_of_beq same with rfl
      have within : ∀ code ∈ characters.map Char.toNat,
          code < CodeSet.codeBound := by
        intro code old
        rcases List.mem_map.mp old with ⟨character, -, rfl⟩
        exact toNat_lt_codeBound character
      exact spans_ofSet (CodeSet.isProper_ofList within) there
        ((CodeSet.contains_ofList within _).mpr (List.mem_map_of_mem among))
  · rw [Option.map_eq_some_iff] at found
    rcases found with ⟨sets, all, -⟩
    rcases exists_of_mapM_eq_some all member with ⟨set, -, given⟩
    rw [noSet] at given
    cases given

/-- Sequences have as many items in common as are counted. -/
theorem take_eq_of_le_commonLength {lefts rights : List Expression} {count : Nat}
    (common : count ≤ commonLength lefts rights) :
    rights.take count = lefts.take count := by
  induction lefts generalizing rights count with
  | nil =>
      rw [commonLength, Nat.le_zero] at common
      · rw [common, List.take_zero, List.take_zero]
      · simp
  | cons left lefts ih =>
      cases rights with
      | nil =>
          rw [commonLength, Nat.le_zero] at common
          · rw [common, List.take_zero, List.take_zero]
          · simp
      | cons right rights =>
          rw [commonLength] at common
          split at common
          · next alike =>
              cases count with
              | zero => rfl
              | succ count =>
                  rw [List.take_succ_cons, List.take_succ_cons,
                    eq_of_same alike, ih (Nat.le_of_succ_le_succ common)]
          · rw [Nat.le_zero] at common
            rw [common, List.take_zero, List.take_zero]

/-- Items that all branches have in common begin each of them. -/
theorem take_eq_of_commonItems {items : List Expression} {bound count : Nat}
    {rest : List Expression} (some_ : 0 < count)
    (common : count ≤ commonItems items bound rest) :
    count ≤ bound ∧ ∀ branch ∈ rest, ∃ others, branch = .sequence others ∧
      others.take count = items.take count := by
  induction rest generalizing bound with
  | nil => exact ⟨common, by simp⟩
  | cons branch rest ih =>
      unfold commonItems at common
      split at common
      · cases ‹_ :: _ = _›
      · next others rest' same =>
          rcases List.cons.inj same with ⟨rfl, rfl⟩
          rcases ih common with ⟨few, later⟩
          rcases Nat.le_min.mp few with ⟨bounded, alike⟩
          exact ⟨bounded, List.forall_mem_cons.mpr
            ⟨⟨others, rfl, take_eq_of_le_commonLength alike⟩, later⟩⟩
      · omega

theorem spans_choice_of_mem (member : branch ∈ branches)
    (spans : Spans text branch first last) :
    Spans text (.choice branches) first last := by
  simp only [Spans]
  exact spansAny_iff.mpr ⟨branch, member, spans⟩

/-- What a flat branch matches, the choice matches.  The items in common are
matched before the choice among what is left of the branches. -/
theorem spans_eitherOf {fuel : Nat} (flat : branch.IsFlat)
    (member : branch ∈ branches) (spans : Spans text branch first last) :
    Spans text (eitherOf fuel branches) first last := by
  induction fuel generalizing branches branch first with
  | zero =>
      unfold eitherOf
      split
      · next set found => exact spans_choiceSet? found member flat.set?_eq spans
      · exact spans_choice_of_mem member spans
  | succ fuel ih =>
      unfold eitherOf
      split
      · next set found => exact spans_choiceSet? found member flat.set?_eq spans
      · split
        · next _ items rest same _ =>
            cases same
            split
            · exact spans_choice_of_mem member spans
            · next count common =>
                rcases take_eq_of_commonItems (Nat.succ_pos count)
                  (Nat.le_of_eq common.symm) with ⟨-, others⟩
                have begun : ∃ own, branch = .sequence own ∧
                    own.take (count + 1) = items.take (count + 1) := by
                  rcases List.mem_cons.mp member with rfl | inRest
                  · exact ⟨items, rfl, rfl⟩
                  · exact others branch inRest
                rcases begun with ⟨own, rfl, alike⟩
                simp only [Spans] at spans
                rw [← List.take_append_drop (count + 1) own,
                  spansInOrder_append, alike] at spans
                rcases spans with ⟨middle, before, after⟩
                have tailFlat : IsFlat (joined (own.drop (count + 1))) :=
                  isFlat_joined fun item inTail =>
                    (flat item (List.mem_of_mem_drop inTail)).isFlat
                rw [spans_joined_iff, spansInOrder_append]
                refine ⟨middle, before, spansInOrder_singleton.mpr ?_⟩
                apply ih tailFlat
                · rw [List.mem_flatMap]
                  exact ⟨_, List.mem_map_of_mem member,
                    tailFlat.branches_eq ▸ List.mem_cons_self⟩
                · exact (spans_joined_iff _).mpr after
        · exact spans_choice_of_mem member spans

/-- What a flat expression matches, the choice of it and others matches. -/
theorem spans_either {expressions : List Expression} (flat : branch.IsFlat)
    (member : branch ∈ expressions) (spans : Spans text branch first last) :
    Spans text (either expressions) first last := by
  have among : branch ∈ expressions.flatMap Expression.branches := by
    rw [List.mem_flatMap]
    exact ⟨branch, member, flat.branches_eq ▸ List.mem_cons_self⟩
  unfold either
  split
  · next vacant =>
      rw [vacant] at among
      cases among
  · next only single =>
      rw [single] at among
      rwa [← List.mem_singleton.mp among]
  · exact spans_eitherOf flat among spans

end Expression

end DocQuery.Pattern
