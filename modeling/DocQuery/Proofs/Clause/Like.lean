import DocQuery.Filter
import DocQuery.Proofs.Clause.Escaped
import DocQuery.Proofs.Filter.Literal
import DocQuery.Proofs.Pattern.Building
import DocQuery.Proofs.Pattern.Size

/-!
# Looking for a text as it is

A text of plain characters becomes a pattern whose expression is one literal
between the anchors.  The expression occurs in the texts that have the wanted
one where it is looked for, and the pattern is accepted as long as the automata
for it are small, which the bytes of the text decide.
-/

namespace DocQuery

open Pattern Expression

namespace Like

variable (options : LikeOptions)

/-! ## The expression of a plain text -/

/-- A tree without flags has this meaning. -/
def Means (tree : Tree) (expression : Expression) : Prop :=
  tree.meaning? .initial = some (expression, .initial)

theorem meanings?_of_means {trees : List Tree} {expressions : List Expression}
    (each : List.Forall₂ Means trees expressions) :
    Tree.meanings? .initial trees = some (expressions, .initial) := by
  induction each with
  | nil => simp only [Tree.meanings?]
  | cons here _ ih =>
      unfold Means at here
      simp only [Tree.meanings?, here, ih, bind, Option.bind_some]

/-- Items stand for what they mean one after the other; a single one is not
wrapped. -/
theorem means_ofItems_cases {trees : List Tree} {expressions : List Expression}
    (each : List.Forall₂ Means trees expressions) :
    Means (Tree.ofItems trees) (joined expressions) ∨
      ∃ only, expressions = [only] ∧ Means (Tree.ofItems trees) only := by
  have meanings := meanings?_of_means each
  cases each with
  | nil =>
      left
      rw [Means, Tree.ofItems, Tree.meaning?, joined_nil]
  | cons here later =>
      cases later with
      | nil => exact Or.inr ⟨_, rfl, here⟩
      | cons next others =>
          left
          rw [Means, Tree.ofItems, Tree.meaning?, meanings]
          · rfl
          all_goals simp

theorem means_literal (character : Char) :
    Means (.literal character false) (.literal [character]) := by
  have inhabited : (between character character).isEmpty = false := by
    simp [between, Unicode.CodeSet.between, Unicode.CodeSet.isEmpty,
      Unicode.CodeSet.ofEdges]
  have only : (between character character).only? = some character.toNat := by
    simp [between, Unicode.CodeSet.only?, Unicode.CodeSet.ranges_between]
  rw [Means, Tree.meaning?]
  simp [Settings.literal?, Settings.initial, Settings.ofSet,
    Settings.classMode, ClassMode.fold, Expression.ofSet, inhabited, only]

/-- What the anchor in front matches. -/
def openingParts : List Expression :=
  anchor options.startOpen (.place .textStart)

/-- What the anchor at the end matches. -/
def closingParts : List Expression :=
  anchor options.endOpen (.place .textEnd)

/-- The characters of a text, one by one. -/
def textParts (text : List Char) : List Expression :=
  text.map fun character => .literal [character]

/-- What the items of a plain text mean. -/
def parts (text : List Char) : List Expression :=
  openingParts options ++ (textParts text ++ closingParts options)

theorem means_lineStart :
    Means (.assertion .lineStart) (.place .textStart) := by
  simp [Means, Tree.meaning?, Settings.place, Settings.initial]

theorem means_lineEnd : Means (.assertion .lineEnd) (.place .textEnd) := by
  simp [Means, Tree.meaning?, Settings.place, Settings.initial]

theorem means_textItems (text : List Char) :
    List.Forall₂ Means (textItems text) (textParts text) := by
  induction text with
  | nil => exact .nil
  | cons character rest ih => exact .cons (means_literal character) ih

theorem eq_of_mem_parts {text : List Char} {part : Expression}
    (member : part ∈ parts options text) :
    (∃ character, part = .literal [character]) ∨
      part = .place .textStart ∨ part = .place .textEnd := by
  simp only [parts, openingParts, closingParts, List.mem_append, mem_anchor]
    at member
  rcases member with ⟨-, opening⟩ | character | ⟨-, closing⟩
  · exact Or.inr (Or.inl opening)
  · rcases List.mem_map.mp character with ⟨found, -, rfl⟩
    exact Or.inl ⟨found, rfl⟩
  · exact Or.inr (Or.inr closing)

/-- The pattern of a plain text stands for the parts that match its
characters, between the anchors. -/
theorem means_items (text : List Char) :
    Means (Tree.ofItems (items options text)) (joined (parts options text)) := by
  have each : List.Forall₂ Means (items options text) (parts options text) :=
    List.rel_append (forall₂_anchor means_lineStart _)
      (List.rel_append (means_textItems text)
        (forall₂_anchor means_lineEnd _))
  rcases means_ofItems_cases each with means | ⟨only, single, means⟩
  · exact means
  · have part : only ∈ parts options text := single ▸ List.mem_cons_self
    rw [single]
    rcases eq_of_mem_parts options part with ⟨_, rfl⟩ | rfl | rfl
    all_goals exact means

/-- The pattern of a plain text is accepted if its automata are small. -/
theorem compile_pattern_of_forall_isPlain {text : String}
    (plain : ∀ character ∈ Text.trimBlank text.toList, IsPlain character) :
    compile (pattern text options).pattern "" =
      if (joined (parts options (Text.trimBlank text.toList))).isSmall then
        .ok (joined (parts options (Text.trimBlank text.toList)))
      else
        .error .malformed := by
  have means := means_items options (Text.trimBlank text.toList)
  unfold Means at means
  simp only [compile, Pattern.options, String.toList_empty, bind, Except.bind,
    parse?_of_forall_isPlain options plain, means]

/-! ## The size of its automata -/

/-- The size of the automaton that is looked for besides the states for the
bytes of the text. -/
def frame : Nat :=
  if options.startOpen then
    if options.endOpen then 208 else 240
  else
    if options.endOpen then 176 else 192

/-- The characters of a text in one literal, if there are any. -/
def word (text : List Char) : List Expression :=
  if text = [] then [] else [.literal text]

theorem joinLiterals_closingParts :
    joinLiterals (closingParts options) = closingParts options := by
  unfold closingParts
  cases options.endOpen <;> rfl

theorem joinLiterals_textParts (text : List Char) :
    joinLiterals (textParts text ++ closingParts options) =
      word text ++ closingParts options := by
  induction text with
  | nil => exact joinLiterals_closingParts options
  | cons character rest ih =>
      rw [textParts, List.map_cons, List.cons_append, joinLiterals]
      rw [textParts] at ih
      rw [ih]
      unfold word closingParts
      by_cases last : rest = [] <;> cases options.endOpen <;>
        simp [anchor, last]

theorem joinLiterals_parts (text : List Char) :
    joinLiterals ((parts options text).flatMap Expression.items) =
      openingParts options ++ (word text ++ closingParts options) := by
  have flat : (parts options text).flatMap Expression.items =
      parts options text := by
    have single : ∀ part ∈ parts options text, part.items = [part] := by
      intro part member
      rcases eq_of_mem_parts options member with ⟨_, rfl⟩ | rfl | rfl
      all_goals rfl
    rw [List.flatMap_congr single, List.flatMap_singleton']
  rw [flat, parts, ← joinLiterals_textParts]
  unfold openingParts
  cases options.startOpen with
  | true => rfl
  | false =>
      simp only [anchor, Bool.false_eq_true, if_false, List.singleton_append]
      rw [joinLiterals]
      simp

theorem takes_word (text : List Char) :
    List.Forall₂ Takes (word text)
      (if text = [] then [] else [(bytesOfText text).length]) := by
  unfold word
  split
  · exact .nil
  · exact .cons (takes_literal text) .nil

theorem extent_joined_parts (text : List Char) :
    (joined (parts options text)).extent.fromStart = !options.startOpen ∧
      (joined (parts options text)).extent.toEnd = !options.endOpen := by
  rw [extent_joined (joinLiterals_parts options text)]
  unfold openingParts closingParts word
  cases options.startOpen <;> cases options.endOpen <;>
    by_cases empty : text = [] <;>
    simp [anchor, empty, sequenceExtent, extent, Extent.followedBy, Extent.nothing,
      Extent.plus]

theorem isSmall_joined_parts_iff (text : List Char) :
    (joined (parts options text)).isSmall = true ↔
      32 * (String.ofList text).utf8ByteSize + frame options ≤ maxSize := by
  have takes := takes_joined (joinLiterals_parts options text)
    (List.rel_append (forall₂_anchor (takes_place _) options.startOpen)
      (List.rel_append (takes_word text)
        (forall₂_anchor (takes_place _) options.endOpen)))
  rcases extent_joined_parts options text with ⟨fromStart, toEnd⟩
  rw [isSmall_iff takes, fromStart, toEnd, ← length_bytesOfText]
  unfold openingParts closingParts word frame maxSize
  cases options.startOpen <;> cases options.endOpen <;>
    by_cases empty : text = [] <;> simp [anchor, empty, bytesOfText] <;> omega

/-! ## The texts that it matches -/

/-- A text has the wanted one inside, at an end that is not open, or is equal
to it. -/
def Finds (wanted text : List Char) : Prop :=
  match options.startOpen, options.endOpen with
  | true, true => wanted <:+: text
  | false, true => wanted <+: text
  | true, false => wanted <:+ text
  | false, false => text = wanted

/-- The wanted text is found if other text only stands at its open ends. -/
theorem finds_iff {wanted text : List Char} :
    Finds options wanted text ↔
      ∃ before after, text = before ++ (wanted ++ after) ∧
        (options.startOpen = false → before = []) ∧
        (options.endOpen = false → after = []) := by
  unfold Finds
  cases options.startOpen <;> cases options.endOpen <;>
    simp [List.IsInfix, List.IsPrefix, List.IsSuffix, eq_comm]

theorem spansInOrder_textParts {text wanted : List Char} {first last : Nat} :
    SpansInOrder text (textParts wanted) first last ↔
      Spans text (.literal wanted) first last := by
  induction wanted generalizing first with
  | nil => simp [textParts, SpansInOrder, Spans, eq_comm]
  | cons character rest ih =>
      rw [textParts, List.map_cons, SpansInOrder, spans_literal_cons]
      simp only [spans_literal_singleton]
      exact exists_congr fun middle => and_congr_right fun _ => ih

theorem spansInOrder_parts {text wanted : List Char} {first last : Nat} :
    SpansInOrder text (parts options wanted) first last ↔
      (options.startOpen = false → first = 0) ∧
        Spans text (.literal wanted) first last ∧
        (options.endOpen = false → last = text.length) := by
  have opening (first middle : Nat) :
      SpansInOrder text (openingParts options) first middle ↔
        (options.startOpen = false → first = 0) ∧ middle = first := by
    unfold openingParts
    cases options.startOpen with
    | true => simp [anchor, SpansInOrder, eq_comm]
    | false =>
        simp [anchor, SpansInOrder, spans_textStart_iff]
        omega
  have closing (middle last : Nat) :
      SpansInOrder text (closingParts options) middle last ↔
        (options.endOpen = false → last = text.length) ∧ middle = last := by
    unfold closingParts
    cases options.endOpen with
    | true => simp [anchor, SpansInOrder]
    | false =>
        simp [anchor, SpansInOrder, spans_textEnd_iff]
        omega
  simp only [parts, spansInOrder_append, spansInOrder_textParts, opening,
    closing]
  constructor
  · rintro ⟨_, ⟨start, rfl⟩, _, found, finish, rfl⟩
    exact ⟨start, found, finish⟩
  · rintro ⟨start, found, finish⟩
    exact ⟨first, ⟨start, rfl⟩, last, found, finish, rfl⟩

/-- The expression of a plain text occurs in the texts that have it where it
is looked for. -/
theorem occursIn_joined_parts_iff (wanted : List Char) (text : String) :
    (joined (parts options wanted)).occursIn text = true ↔
      Finds options wanted text.toList := by
  simp only [occursIn_iff, spans_joined_iff, spansInOrder_parts, Spans,
    finds_iff]
  constructor
  · rintro ⟨first, last, within, start, ⟨⟨after, found⟩, rfl⟩, finish⟩
    have whole : text.toList = text.toList.take first ++ (wanted ++ after) := by
      rw [found, List.take_append_drop]
    have size := congrArg List.length found
    rw [List.length_append, List.length_drop] at size
    refine ⟨text.toList.take first, after, whole, fun closed => ?_,
      fun closed => ?_⟩
    · rw [start closed, List.take_zero]
    · have ends := finish closed
      exact List.length_eq_zero_iff.mp (by omega)
  · rintro ⟨before, after, whole, start, finish⟩
    rw [whole]
    refine ⟨before.length, before.length + wanted.length, by simp,
      fun closed => ?_, ⟨⟨after, by simp⟩, rfl⟩, fun closed => ?_⟩
    · rw [start closed, List.length_nil]
    · rw [finish closed]
      simp

/-! ## The filter -/

open DocQuery.Filter in
/-- The filter with a pattern asks whether the pattern, if it is accepted,
occurs in the text at the path. -/
theorem meets_pattern {path : String} {document : Document} {text : String}
    (field : isOperatorName path = false)
    (found : document.getPath? path = some (.string text))
    (sought : TextPattern) :
    document.meets [(path, .document sought.toDocument)] =
      match compile sought.pattern sought.flags with
      | .error refusal => .error (refusalError refusal)
      | .ok expression => .ok (expression.occursIn text) := by
  have form : operators? (.document sought.toDocument) =
      some sought.toDocument := rfl
  have letters : ((sought.toDocument.get? "$options").bind
      Value.asString?).getD "" = sought.flags := rfl
  rw [meets_of_operators? field form, found, meetsOperators]
  simp only [meetsEach, TextPattern.toDocument] at letters ⊢
  simp only [meetsOperator, matchesPattern, letters]
  cases compile sought.pattern sought.flags with
  | error refusal => rfl
  | ok expression =>
      simp only
      cases expression.occursIn text <;> rfl

/-- The text is looked for literally: wherever a document has a text at a
path, the filter is evaluated, and met exactly if the text without its blank
margin is found there. -/
def IsLiteral (wanted : String) : Prop :=
  ∀ (path : String) (document : Document) (text : String),
    isOperatorName path = false →
    document.getPath? path = some (.string text) →
    ∃ met, document.meets
        [(path, .document (pattern wanted options).toDocument)] = .ok met ∧
      (met = true ↔
        Finds options (Text.trimBlank wanted.toList) text.toList)

@[simp]
theorem flags_pattern (wanted : String) :
    (pattern wanted options).flags = options.flags := rfl

/-- The documents do not matter, only the texts in them. -/
theorem isLiteral_iff_exists_compile {wanted : String} :
    IsLiteral options wanted ↔
      ∃ expression, compile (pattern wanted options).pattern options.flags =
          .ok expression ∧
        ∀ text : String, expression.occursIn text = true ↔
          Finds options (Text.trimBlank wanted.toList) text.toList := by
  constructor
  · intro literal
    have evaluated (text : String) :=
      literal "f" [("f", .string text)] text (by decide) rfl
    simp only [meets_pattern (by decide : isOperatorName "f" = false)
      (rfl : Document.getPath? [("f", .string _)] "f" = _)] at evaluated
    cases compiled : compile (pattern wanted options).pattern options.flags with
    | error refusal =>
        rcases evaluated "" with ⟨met, refused, -⟩
        rw [flags_pattern, compiled] at refused
        cases refused
    | ok expression =>
        refine ⟨expression, rfl, fun text => ?_⟩
        rcases evaluated text with ⟨met, occurs, found⟩
        rw [flags_pattern, compiled] at occurs
        rwa [Except.ok.inj occurs]
  · rintro ⟨expression, compiled, occurs⟩ path document text field found
    rw [meets_pattern field found, flags_pattern, compiled]
    exact ⟨_, rfl, occurs text⟩

/-- Without option letters, a text of plain characters is looked for literally
exactly if it is short enough. -/
theorem isLiteral_iff_of_forall_isPlain {wanted : String}
    (unflagged : options.flags = "")
    (plain : ∀ character ∈ Text.trimBlank wanted.toList, IsPlain character) :
    IsLiteral options wanted ↔
      32 * (Text.trim wanted).utf8ByteSize + frame options ≤ maxSize := by
  rw [isLiteral_iff_exists_compile, unflagged,
    compile_pattern_of_forall_isPlain options plain, Text.trim,
    ← isSmall_joined_parts_iff]
  constructor
  · rintro ⟨expression, compiled, -⟩
    by_contra large
    rw [if_neg large] at compiled
    cases compiled
  · intro small
    exact ⟨_, if_pos small, occursIn_joined_parts_iff options _⟩

end Like

end DocQuery
