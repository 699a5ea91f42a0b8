import DocQuery.Proofs.Clause.Like

/-!
# Texts that are not looked for as they are

A bar or an opening brace in a text keeps its meaning in the pattern that
looks for the text: alternatives, or the bounds of a repetition.  What is read
before the first bar is a sequence of plain characters and repetitions of
them, so the pattern, if it can be read at all, matches a text that has neither
bars nor braces.  The text itself is not found there.  So exactly the texts of
plain characters are looked for literally, as long as they are not too long.
-/

namespace DocQuery

open Pattern Expression

namespace Like

variable (options : LikeOptions)

/-! ## Branches -/

theorem exists_closeBranches (later : List Tree) (first : Tree)
    (items : List Tree) :
    ∃ others, closeBranches (later ++ [first]) items =
      .alternation (first :: others) := by
  cases later with
  | nil => exact ⟨_, rfl⟩
  | cons last rest =>
      refine ⟨rest.reverse ++ [last] ++ [Tree.ofItems items.reverse], ?_⟩
      simp [closeBranches]

/-- A branch that has been read stays the first one. -/
theorem exists_alternation_of_branches? {fuel : Nat} {later items : List Tree}
    {first tree : Tree} {start last : Reader}
    (read : branches? fuel (later ++ [first]) items start = some (tree, last)) :
    ∃ others, tree = .alternation (first :: others) := by
  induction fuel generalizing later items start with
  | zero => cases read
  | succ fuel ih =>
      unfold branches? at read
      simp only [bind] at read
      split at read
      -- The pattern ends, or the group around the branches.
      case h_1 | h_2 =>
        rcases exists_closeBranches later first items with ⟨others, closed⟩
        rw [closed] at read
        cases read
        exact ⟨others, rfl⟩
      -- A bar ends a branch, which is kept behind the others.
      case h_3 => exact @ih (_ :: later) _ _ read
      -- Branches inside a group are read apart from those around it.
      case h_4 =>
        split at read
        · cases read
        · exact ih read
        · split at read
          · split at read
            · exact ih read
            · cases read
          · cases read
      case h_5 | h_6 | h_7 | h_8 | h_10 =>
        rcases Option.bind_eq_some_iff.mp read with ⟨_, -, onward⟩
        exact ih onward
      case h_9 =>
        rcases Option.bind_eq_some_iff.mp read with ⟨_, -, repeated⟩
        rcases Option.bind_eq_some_iff.mp repeated with ⟨_, -, onward⟩
        exact ih onward
      all_goals exact ih read

/-! ## Bounds of repetitions -/

theorem dropBlanks_reader (rest : List Char) :
    ∃ left, dropBlanks (reader rest) = reader left ∧ left <:+ rest :=
  ⟨_, rfl, List.dropWhile_suffix _⟩

theorem digits_reader (fuel : Nat) (found rest : List Char) :
    ∃ read left, digits fuel found (reader rest) = (read, reader left) ∧
      left <:+ rest := by
  induction fuel generalizing found rest with
  | zero => exact ⟨_, rest, rfl, List.suffix_rfl⟩
  | succ fuel ih =>
      cases rest with
      | nil => exact ⟨_, [], rfl, List.suffix_rfl⟩
      | cons character rest =>
          simp only [digits, rest_reader]
          split
          · rcases ih (character :: found) rest with ⟨read, left, done, suffix⟩
            exact ⟨read, left, done, suffix.trans (List.suffix_cons _ _)⟩
          · exact ⟨_, _, rfl, List.suffix_rfl⟩

theorem bound?_reader {rest : List Char} {bound : Option Nat} {last : Reader}
    (read : bound? (reader rest) = some (bound, last)) :
    ∃ left, last = reader left ∧ left <:+ rest := by
  rcases dropBlanks_reader rest with ⟨start, dropped, begins⟩
  rcases digits_reader start.length [] start with ⟨found, left, numbers, further⟩
  rcases dropBlanks_reader left with ⟨behind, droppedLater, ends⟩
  simp only [bound?, dropped, rest_reader, numbers, droppedLater,
    settle_reader] at read
  have suffix := ends.trans (further.trans begins)
  split at read
  · cases read
    exact ⟨behind, rfl, suffix⟩
  · split at read
    · cases read
      exact ⟨behind, rfl, suffix⟩
    · cases read

/-- The bounds of a repetition end with a closing brace. -/
theorem bounds?_reader {rest : List Char} {least : Nat} {most : Option Nat}
    {last : Reader}
    (read : bounds? (reader ('\x7b' :: rest)) = some (least, most, last)) :
    ∃ left, last = reader ('\x7d' :: left) ∧ '\x7d' :: left <:+ rest := by
  have inner : (reader ('\x7b' :: rest)).advance = reader rest := rfl
  simp only [bounds?, inner, bind, Option.bind_eq_some_iff] at read
  rcases read with ⟨⟨bound, afterFirst⟩, first, least', -, read⟩
  rcases bound?_reader first with ⟨behind, rfl, suffix⟩
  simp only [rest_reader] at read
  split at read
  · next left => 
      cases read
      exact ⟨left, rfl, suffix⟩
  · next left =>
      have comma : (reader (',' :: left)).advance = reader left := rfl
      have within := (List.suffix_cons ',' left).trans suffix
      simp only [comma, rest_reader] at read
      split at read
      · next left =>
          cases read
          exact ⟨left, rfl, within⟩
      · cases read
      · rcases Option.bind_eq_some_iff.mp read with
          ⟨⟨bound, afterSecond⟩, second, read⟩
        rcases Option.bind_eq_some_iff.mp read with ⟨most', -, read⟩
        rcases bound?_reader second with ⟨behind, rfl, further⟩
        simp only [rest_reader] at read
        split at read
        · next left _ =>
            split at read
            · cases read
              exact ⟨left, rfl, further.trans within⟩
            · cases read
        · cases read
  · cases read

/-- Behind a closing brace escaped text goes on. -/
theorem exists_escapeCharacters_of_suffix {text left : List Char}
    (suffix : '\x7d' :: left <:+ escapeCharacters text ++ closing options) :
    ∃ further, left = escapeCharacters further ++ closing options := by
  have braceless : '\x7d' ∉ escaped := by decide
  induction text with
  | nil =>
      have inside := suffix.subset List.mem_cons_self
      rcases mem_anchor.mp inside with ⟨-, same⟩
      cases same
  | cons character rest ih =>
      by_cases special : character ∈ escaped
      · rw [escapeCharacters_of_escaped special, List.cons_append,
          List.cons_append, List.suffix_cons_iff, List.suffix_cons_iff] at suffix
        rcases suffix with here | here | later
        · cases here
        · rcases (List.cons.inj here).1 with rfl
          exact absurd special braceless
        · exact ih later
      · rw [escapeCharacters_of_not_escaped special, List.cons_append,
          List.suffix_cons_iff] at suffix
        rcases suffix with here | later
        · exact ⟨rest, (List.cons.inj here).2⟩
        · exact ih later

/-- Escaped text does not begin with a question mark. -/
theorem escapeCharacters_append_closing_ne (text rest : List Char) :
    escapeCharacters text ++ closing options ≠ '?' :: rest := by
  have marked : '?' ∈ escaped := by decide
  intro same
  cases text with
  | nil =>
      have inside : '?' ∈ closing options := by
        rw [escapeCharacters, List.nil_append] at same
        exact same ▸ List.mem_cons_self
      rcases mem_anchor.mp inside with ⟨-, other⟩
      cases other
  | cons character others =>
      by_cases special : character ∈ escaped
      · rw [escapeCharacters_of_escaped special] at same
        cases same
      · rw [escapeCharacters_of_not_escaped special] at same
        rcases (List.cons.inj same).1 with rfl
        exact special marked

/-! ## Items that match plain text -/

/-- The item matches a text of plain characters wherever it stands, or the
empty text at the start. -/
def Harmless (anchored : Bool) (item : Tree) : Prop :=
  ∃ expression word, Means item expression ∧ expression.IsFlat ∧
    (∀ character ∈ word, IsPlain character) ∧
    (anchored = true → word = []) ∧ Matches anchored word expression

theorem harmless_literal {character : Char} (plain : IsPlain character) :
    Harmless false (.literal character false) := by
  refine ⟨.literal [character], [character], means_literal character,
    (IsAtom.literal _).isFlat, by simpa using plain, by simp, ?_⟩
  intro before after _
  simp [Spans]

theorem harmless_lineStart : Harmless true (.assertion .lineStart) := by
  refine ⟨.place .textStart, [], means_lineStart, (IsAtom.place _).isFlat,
    by simp, fun _ => rfl, fun before after start => ?_⟩
  rw [start rfl, spans_textStart_iff]
  exact ⟨rfl, rfl⟩

theorem Harmless.repetition {anchored : Bool} {item : Tree}
    (harmless : Harmless anchored item) (least : Nat) (most : Option Nat)
    (greedy : Bool) :
    Harmless anchored (.repetition least most greedy item) := by
  rcases harmless with ⟨expression, word, means, flat, plain, still, found⟩
  rcases found.repeated still least most (greedy != false) with
    ⟨count, repeated⟩
  refine ⟨_, _, ?_, isFlat_repeated flat least most (greedy != false),
    fun character member => ?_, fun fixed => ?_, repeated⟩
  · unfold Means at means
    rw [Means, Tree.meaning?, means]
    rfl
  · rcases List.mem_flatten.mp member with ⟨copy, among, inside⟩
    rw [List.eq_of_mem_replicate among] at inside
    exact plain character inside
  · rw [still fixed]
    simp

/-- Items that were read before the first bar, the last one first. -/
def Held (items : List Tree) : Prop :=
  ∃ later opening, items = later ++ opening ∧
    (∀ item ∈ later, Harmless false item) ∧
    (opening = [] ∨ ∃ item, opening = [item] ∧ Harmless true item)

theorem held_openingItems : Held (openingItems options) := by
  refine ⟨[], openingItems options, rfl, by simp, ?_⟩
  unfold openingItems
  cases options.startOpen with
  | true => exact Or.inl rfl
  | false => exact Or.inr ⟨_, rfl, harmless_lineStart⟩

theorem Held.cons {item : Tree} {items : List Tree} (held : Held items)
    (harmless : Harmless false item) : Held (item :: items) := by
  rcases held with ⟨later, opening, rfl, each, start⟩
  exact ⟨item :: later, opening, rfl,
    List.forall_mem_cons.mpr ⟨harmless, each⟩, start⟩

theorem Held.repetition {item : Tree} {items : List Tree}
    (held : Held (item :: items)) (least : Nat) (most : Option Nat)
    (greedy : Bool) :
    Held (.repetition least most greedy item :: items) := by
  rcases held with ⟨later, opening, same, each, start⟩
  cases later with
  | nil =>
      rcases start with rfl | ⟨first, rfl, harmless⟩
      · cases same
      · cases same
        exact ⟨[], _, rfl, by simp,
          Or.inr ⟨_, rfl, harmless.repetition least most greedy⟩⟩
  | cons next others =>
      cases same
      rcases List.forall_mem_cons.mp each with ⟨harmless, rest⟩
      exact ⟨_ :: others, opening, rfl, List.forall_mem_cons.mpr
        ⟨harmless.repetition least most greedy, rest⟩, start⟩

/-! ## The first branch -/

/-- The tree matches a whole text of plain characters. -/
def MatchesPlain (tree : Tree) : Prop :=
  ∃ expression word, Means tree expression ∧ expression.IsFlat ∧
    (∀ character ∈ word, IsPlain character) ∧
    Spans word expression 0 word.length

theorem exists_means_ofItems {trees : List Tree} {expressions : List Expression}
    (each : List.Forall₂ Means trees expressions)
    (flat : ∀ expression ∈ expressions, expression.IsFlat) :
    ∃ expression, Means (Tree.ofItems trees) expression ∧ expression.IsFlat ∧
      ∀ text first last, Spans text expression first last ↔
        SpansInOrder text expressions first last := by
  rcases means_ofItems_cases each with means | ⟨only, rfl, means⟩
  · exact ⟨_, means, isFlat_joined flat,
      fun text first last => spans_joined_iff expressions⟩
  · exact ⟨only, means, flat only List.mem_cons_self,
      fun text first last => spansInOrder_singleton.symm⟩

/-- Harmless items match the texts of each of them one after the other. -/
theorem exists_spansInOrder {items : List Tree}
    (harmless : ∀ item ∈ items, Harmless false item) :
    ∃ expressions word, List.Forall₂ Means items expressions ∧
      (∀ expression ∈ expressions, expression.IsFlat) ∧
      (∀ character ∈ word, IsPlain character) ∧
      ∀ before after, SpansInOrder (before ++ (word ++ after)) expressions
        before.length (before.length + word.length) := by
  induction items with
  | nil =>
      refine ⟨[], [], .nil, by simp, by simp, fun before after => ?_⟩
      simp [SpansInOrder]
  | cons item rest ih =>
      rcases List.forall_mem_cons.mp harmless with ⟨here, later⟩
      rcases here with ⟨expression, word, means, flat, plain, -, found⟩
      rcases ih later with
        ⟨expressions, words, others, flats, plains, further⟩
      refine ⟨expression :: expressions, word ++ words, .cons means others,
        List.forall_mem_cons.mpr ⟨flat, flats⟩,
        List.forall_mem_append.mpr ⟨plain, plains⟩, fun before after => ?_⟩
      have first := found before (words ++ after) (by simp)
      have second := further (before ++ word) after
      simp only [List.append_assoc, List.length_append, ← Nat.add_assoc]
        at second ⊢
      exact ⟨_, first, second⟩

/-- An anchor at the end is met at the end of every text. -/
theorem spansInOrder_closingParts (text : List Char) :
    SpansInOrder text (closingParts options) text.length text.length := by
  unfold closingParts
  cases options.endOpen with
  | true => rfl
  | false => exact spansInOrder_singleton.mpr (spans_textEnd_iff.mpr ⟨rfl, rfl⟩)

theorem isFlat_of_mem_closingParts {part : Expression}
    (member : part ∈ closingParts options) : part.IsFlat := by
  rcases mem_anchor.mp member with ⟨-, rfl⟩
  exact (IsAtom.place _).isFlat

/-- The items before the first bar, or all of them and the anchor behind, match
a text of plain characters. -/
theorem Held.matchesPlain {items : List Tree} (held : Held items) :
    MatchesPlain (Tree.ofItems (items.reverse ++ closingItems options)) := by
  rcases held with ⟨later, opening, rfl, each, start⟩
  have inOrder : ∀ item ∈ later.reverse, Harmless false item := by
    intro item member
    exact each item (List.mem_reverse.mp member)
  rcases exists_spansInOrder inOrder with
    ⟨expressions, word, means, flat, plain, found⟩
  have begun : ∃ parts, List.Forall₂ Means opening parts ∧
      (∀ part ∈ parts, part.IsFlat) ∧
      ∀ text, SpansInOrder text parts 0 0 := by
    rcases start with rfl | ⟨first, rfl, expression, _, means, flat, -, still,
      matched⟩
    · exact ⟨[], .nil, by simp, fun text => rfl⟩
    · refine ⟨[expression], .cons means .nil, by simpa using flat,
        fun text => spansInOrder_singleton.mpr ?_⟩
      rcases still rfl with rfl
      exact matched [] text fun _ => rfl
  rcases begun with ⟨parts, partsMean, partsFlat, entered⟩
  have order : (later ++ opening).reverse ++ closingItems options =
      opening ++ (later.reverse ++ closingItems options) := by
    have same : opening.reverse = opening := by
      rcases start with rfl | ⟨first, rfl, -⟩
      · rfl
      · rfl
    rw [List.reverse_append, same, List.append_assoc]
  rcases exists_means_ofItems
    (List.rel_append partsMean
      (List.rel_append means (forall₂_anchor means_lineEnd options.endOpen)))
    (List.forall_mem_append.mpr ⟨partsFlat, List.forall_mem_append.mpr
      ⟨flat, fun part => isFlat_of_mem_closingParts options⟩⟩) with
    ⟨expression, whole, wholeFlat, spans⟩
  rw [order]
  refine ⟨expression, word, whole, wholeFlat, plain, (spans _ _ _).mpr ?_⟩
  rw [spansInOrder_append]
  refine ⟨0, entered word, ?_⟩
  rw [spansInOrder_append]
  refine ⟨word.length, ?_, spansInOrder_closingParts options word⟩
  simpa using found [] []

theorem eq_of_branches?_nil {fuel : Nat} {branches items : List Tree}
    {tree : Tree} {last : Reader}
    (read : branches? fuel branches items (reader []) = some (tree, last)) :
    tree = closeBranches branches items := by
  cases fuel with
  | zero => cases read
  | succ fuel =>
      rw [branches?] at read
      cases read
      rfl

theorem eq_of_branches?_closing {fuel : Nat} {branches items : List Tree}
    {tree : Tree} {last : Reader}
    (read : branches? fuel branches items (reader (closing options)) =
      some (tree, last)) :
    tree = closeBranches branches (closingItems options ++ items) := by
  unfold closing at read
  unfold closingItems
  cases ended : options.endOpen with
  | true =>
      rw [ended] at read
      exact eq_of_branches?_nil read
  | false =>
      rw [ended] at read
      cases fuel with
      | zero => cases read
      | succ fuel =>
          rw [anchor, if_neg Bool.false_ne_true, branches?] at read
          exact eq_of_branches?_nil read

theorem branches?_bar (fuel : Nat) (branches items : List Tree)
    (rest : List Char) :
    branches? (fuel + 1) branches items (reader ('|' :: rest)) =
      branches? fuel (Tree.ofItems items.reverse :: branches) []
        (reader rest) := by
  rw [branches?]
  rfl

/-- Bounds that can be read repeat the last item. -/
theorem exists_of_branches?_brace {fuel : Nat} {items : List Tree}
    {text : List Char} {result : Tree × Reader}
    (read : branches? (fuel + 1) [] items
      (reader ('\x7b' :: (escapeCharacters text ++ closing options))) =
        some result) :
    ∃ item others least most further, items = item :: others ∧
      branches? fuel [] (.repetition least most true item :: others)
        (reader (escapeCharacters further ++ closing options)) =
          some result := by
  rw [branches?] at read
  simp only [settle_reader, rest_reader, bind] at read
  rcases Option.bind_eq_some_iff.mp read with
    ⟨⟨least, most, ending⟩, bounds, read⟩
  rcases Option.bind_eq_some_iff.mp read with ⟨⟨repeated, next⟩, again, onward⟩
  rcases bounds?_reader bounds with ⟨left, rfl, suffix⟩
  rcases exists_escapeCharacters_of_suffix options suffix with ⟨further, rfl⟩
  cases items with
  | nil => cases again
  | cons item others =>
      have behind : (reader ('\x7d' ::
          (escapeCharacters further ++ closing options))).advance =
        reader (escapeCharacters further ++ closing options) := rfl
      simp only [repeatLast?, behind] at again
      split at again
      · split at again
        · next rest same =>
            exact absurd same
              (escapeCharacters_append_closing_ne options further rest)
        · cases again
          exact ⟨item, others, least, most, further, rfl, onward⟩
      · cases again

/-- What is read from escaped text matches a text of plain characters, or its
first branch does. -/
theorem matchesPlain_of_branches? {fuel : Nat} {text : List Char}
    {items : List Tree} {tree : Tree} {last : Reader} (held : Held items)
    (read : branches? fuel [] items
      (reader (escapeCharacters text ++ closing options)) = some (tree, last)) :
    MatchesPlain tree ∨
      ∃ first others, tree = .alternation (first :: others) ∧
        MatchesPlain first := by
  have barred : '|' ∉ escaped := by decide
  have braced : '\x7b' ∉ escaped := by decide
  induction fuel generalizing text items with
  | zero => cases read
  | succ fuel ih =>
      cases text with
      | nil =>
          left
          have whole := held.matchesPlain options
          rw [eq_of_branches?_closing options read, closeBranches,
            List.reverse_append, closingItems, reverse_anchor]
          exact whole
      | cons character rest =>
          by_cases plain : IsPlain character
          · rw [branches?_of_isPlain plain] at read
            exact ih (held.cons (harmless_literal plain)) read
          · have special : character = '|' ∨ character = '\x7b' := by
              unfold IsPlain at plain
              tauto
            rcases special with rfl | rfl
            · right
              rw [escapeCharacters_of_not_escaped barred, List.cons_append,
                branches?_bar] at read
              rcases @exists_alternation_of_branches? _ [] _ _ _ _ _ read with
                ⟨others, rfl⟩
              refine ⟨_, others, rfl, ?_⟩
              have first := held.matchesPlain { options with endOpen := true }
              rwa [closingItems, anchor, if_pos rfl, List.append_nil] at first
            · rw [escapeCharacters_of_not_escaped braced,
                List.cons_append] at read
              rcases exists_of_branches?_brace options read with
                ⟨item, others, least, most, further, rfl, onward⟩
              exact ih (held.repetition least most true) onward

/-! ## Whole patterns -/

theorem occursIn_of_spans {expression : Expression} {word : List Char}
    (spans : Spans word expression 0 word.length) :
    expression.occursIn (String.ofList word) = true := by
  rw [occursIn_iff, String.toList_ofList]
  exact ⟨0, word.length, Nat.zero_le _, spans⟩

/-- The tree of a pattern that looks for a text, or its first branch, matches a
text of plain characters. -/
theorem matchesPlain_of_parse? {wanted : String} {tree : Tree}
    (parsed : parse? false (pattern wanted options).pattern = some tree) :
    MatchesPlain tree ∨
      ∃ first others, tree = .alternation (first :: others) ∧
        MatchesPlain first := by
  simp only [parse?, bind, Option.bind_eq_some_iff] at parsed
  rcases parsed with ⟨⟨found, last⟩, read, finish⟩
  split at finish
  · cases finish
    have long : (opening options).length ≤
        (pattern wanted options).pattern.toList.length + 1 := by
      rw [toList_pattern, List.length_append]
      omega
    obtain ⟨fuel, enough⟩ := Nat.exists_eq_add_of_le' long
    rw [enough, toList_pattern] at read
    have begun := (branches?_opening options fuel _).symm.trans read
    exact matchesPlain_of_branches? options (held_openingItems options) begun
  · cases finish

/-- An expression that a tree of plain text stands for occurs in one. -/
theorem exists_occursIn_of_matchesPlain {tree : Tree} {expression : Expression}
    {after : Pattern.Settings}
    (matched : MatchesPlain tree ∨
      ∃ first others, tree = .alternation (first :: others) ∧
        MatchesPlain first)
    (meant : tree.meaning? .initial = some (expression, after)) :
    ∃ word : List Char, (∀ character ∈ word, IsPlain character) ∧
      expression.occursIn (String.ofList word) = true := by
  rcases matched with whole | ⟨first, others, rfl, branch⟩
  · rcases whole with ⟨found, word, means, -, plain, spans⟩
    unfold Means at means
    rw [means] at meant
    cases meant
    exact ⟨word, plain, occursIn_of_spans spans⟩
  · rcases branch with ⟨found, word, means, flat, plain, spans⟩
    unfold Means at means
    simp only [Tree.meaning?, Tree.meanings?, means, bind, Option.bind_some]
      at meant
    rcases Option.map_eq_some_iff.mp meant with ⟨⟨expressions, _⟩, each, same⟩
    rcases Option.bind_eq_some_iff.mp each with ⟨⟨later, _⟩, -, listed⟩
    cases listed
    cases same
    exact ⟨word, plain,
      occursIn_of_spans (spans_either flat List.mem_cons_self spans)⟩

/-- A pattern that looks for a text and is accepted occurs in a text of plain
characters. -/
theorem exists_occursIn_of_compile {wanted : String} {expression : Expression}
    (compiled : compile (pattern wanted options).pattern "" =
      .ok expression) :
    ∃ word : List Char, (∀ character ∈ word, IsPlain character) ∧
      expression.occursIn (String.ofList word) = true := by
  simp only [compile, Pattern.options, String.toList_empty, bind, Except.bind]
    at compiled
  split at compiled
  · cases compiled
  · next tree parsed =>
      split at compiled
      · cases compiled
      · next meant =>
          split at compiled
          · cases compiled
            exact exists_occursIn_of_matchesPlain
              (matchesPlain_of_parse? options parsed) meant
          · cases compiled

/-- A text is looked for literally, without option letters, exactly if it
consists of plain characters and is short enough for the automata. -/
theorem isLiteral_iff (wanted : String) :
    IsLiteral (options.withFlags "") wanted ↔
      (∀ character ∈ Text.trimBlank wanted.toList, IsPlain character) ∧
        32 * (Text.trim wanted).utf8ByteSize + frame options ≤ maxSize := by
  have unflagged : (options.withFlags "").flags = "" := rfl
  have plainOf (literal : IsLiteral (options.withFlags "") wanted) :
      ∀ character ∈ Text.trimBlank wanted.toList, IsPlain character := by
    rcases (isLiteral_iff_exists_compile _).mp literal with
      ⟨expression, compiled, occurs⟩
    rw [unflagged] at compiled
    rcases exists_occursIn_of_compile _ compiled with ⟨word, plain, occurring⟩
    have found := (occurs _).mp occurring
    rw [String.toList_ofList, finds_iff] at found
    rcases found with ⟨before, after, rfl, -⟩
    intro character member
    exact plain character (by simp [member])
  constructor
  · intro literal
    have plain := plainOf literal
    exact ⟨plain,
      (isLiteral_iff_of_forall_isPlain _ unflagged plain).mp literal⟩
  · rintro ⟨plain, short⟩
    exact (isLiteral_iff_of_forall_isPlain _ unflagged plain).mpr short

theorem isLiteral_iff_version :
    IsLiteral (LikeOptions.withFlags ⟨"i", true, true⟩ "") " v1.0 (beta) " ∧
      ¬ IsLiteral (LikeOptions.withFlags ⟨"i", true, true⟩ "") "stable|beta" := by
  have trimmed : Text.trimBlank " v1.0 (beta) ".toList =
      "v1.0 (beta)".toList := by decide
  constructor
  · refine (isLiteral_iff ⟨"i", true, true⟩ _).mpr ⟨?_, ?_⟩
    · rw [trimmed]
      simp [IsPlain]
    · rw [Text.trim, trimmed]
      decide
  · intro literal
    have plain := ((isLiteral_iff ⟨"i", true, true⟩ _).mp literal).1
    exact (plain '|' (by decide)).1 rfl

end Like

end DocQuery
