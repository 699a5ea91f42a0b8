import DocQuery.Pattern.Reader

/-!
# Reading patterns

The tree of a pattern.  Bracketed classes and groups nest; a pattern that
nests more than 250 deep is refused.  The readers take a bound on the number of
steps: every step reads at least one character, so one more than the
characters left is enough.
-/

namespace DocQuery.Pattern

open Text

/-- The class of ASCII characters with a name. -/
def asciiClass? (name : List Char) : Option AsciiClass :=
  [("alnum", AsciiClass.alnum), ("alpha", .alpha), ("ascii", .ascii),
    ("blank", .blank), ("cntrl", .cntrl), ("digit", .digit),
    ("graph", .graph), ("lower", .lower), ("print", .print),
    ("punct", .punct), ("space", .space), ("upper", .upper),
    ("word", .word), ("xdigit", .xdigit)].lookup (String.ofList name)

/-- Read a named class such as `[:alpha:]`, if the text is one. -/
def namedClass? : List Char → Option (CharacterClass × List Char)
  | '[' :: ':' :: rest =>
    let (negated, body) :=
      match rest with
      | '^' :: others => (true, others)
      | others => (false, others)
    let name := body.takeWhile (· != ':')
    match body.drop name.length with
    | ':' :: ']' :: last =>
      (asciiClass? name).map fun kind => (.ascii kind negated, last)
    | _ => none
  | _ => none

/-- Read dashes at the front of a class; `fuel` bounds their count. -/
def leadingDashes : Nat → CharacterClass → Reader → CharacterClass × Reader
  | 0, items, reader => (items, reader)
  | fuel + 1, items, reader =>
    match reader.rest with
    | '-' :: _ =>
      leadingDashes fuel (.union items (.character '-')) reader.advance
    | _ => (items, reader)

/-- Read the front of a class: its opening bracket, a caret that negates it,
and dashes or a closing bracket that stand for themselves. -/
def openClass? (reader : Reader) : Option (Bool × CharacterClass × Reader) :=
  let inner := reader.advance
  let (negated, inner) :=
    match inner.rest with
    | '^' :: _ => (true, inner.advance)
    | _ => (false, inner)
  let (items, inner) := leadingDashes inner.rest.length .none inner
  match inner.rest with
  | [] => none
  | ']' :: _ =>
    match items with
    | .none =>
      let last := inner.advance
      if last.rest = [] then none
      else some (negated, .character ']', last)
    | _ => some (negated, items, inner)
  | _ => some (negated, items, inner)

/-- Read one character or escape inside a class. -/
def classItem? (reader : Reader) : Option (Tree × Reader) :=
  match reader.rest with
  | [] => none
  | '\\' :: _ => escape? reader
  | character :: _ => some (.literal character false, reader.step)

/-- An item as a set of its own. -/
def itemClass? : Tree → Option CharacterClass
  | .literal value _ => some (.character value)
  | .characters set => some set
  | _ => none

/-- Read one item or a range of characters inside a class. -/
def classRange? (reader : Reader) : Option (CharacterClass × Reader) := do
  let (first, next) ← classItem? reader
  let next := next.settle
  match next.rest with
  | [] => none
  | '-' :: _ =>
    if next.afterNext = some ']' ∨ next.afterNext = some '-' then
      (itemClass? first).map fun set => (set, next)
    else
      let (second, last) ← classItem? next.advance
      match first, second with
      | .literal low _, .literal high _ =>
        if low ≤ high then some (.range low high, last) else none
      | _, _ => none
  | _ => (itemClass? first).map fun set => (set, next)

/-- Apply a pending operation to the items after it. -/
def closeOperation (pending : Option (SetOperation × CharacterClass))
    (items : CharacterClass) : CharacterClass :=
  match pending with
  | none => items
  | some (kind, left) => .operation kind left items

/-- Read the items of a class up to its closing bracket.  Operations between
sets take effect from left to right, after the items beside them. -/
def classBody? : Nat → Option (SetOperation × CharacterClass) →
    CharacterClass → Reader → Option (CharacterClass × Reader)
  | 0, _, _, _ => none
  | fuel + 1, pending, items, reader =>
    let reader := reader.settle
    match reader.rest with
    | [] => none
    | ']' :: _ => some (closeOperation pending items, reader.step)
    | '&' :: '&' :: rest =>
      classBody? fuel (some (.intersection, closeOperation pending items)) .none
        { reader with rest := rest }
    | '-' :: '-' :: rest =>
      classBody? fuel (some (.difference, closeOperation pending items)) .none
        { reader with rest := rest }
    | '~' :: '~' :: rest =>
      classBody? fuel
        (some (.symmetricDifference, closeOperation pending items)) .none
        { reader with rest := rest }
    | '[' :: _ =>
      match namedClass? reader.rest with
      | some (set, rest) =>
        classBody? fuel pending (.union items set) { reader with rest := rest }
      | none => do
        let (negated, first, inner) ← openClass? reader
        let (body, last) ← classBody? fuel none first inner
        classBody? fuel pending (.union items (.bracket negated body)) last
    | _ => do
      let (set, last) ← classRange? reader
      classBody? fuel pending (.union items set) last

/-- Read a class; the reader stands at its opening bracket. -/
def class? (reader : Reader) : Option (CharacterClass × Reader) := do
  let (negated, first, inner) ← openClass? reader
  let (body, last) ← classBody? (inner.rest.length + 1) none first inner
  some (.bracket negated body, last)

/-- What an opening parenthesis begins. -/
inductive Opening where
  /-- Flags for the rest of the enclosing group. -/
  | flags (change : FlagChange) (reader : Reader)
  /-- A group with flags of its own, and a number if it keeps what it
  matches. -/
  | group (change : FlagChange) (index : Option Nat) (reader : Reader)

/-- The flags that a reader obeys itself. -/
def Reader.obey (reader : Reader) (change : FlagChange) : Reader :=
  { reader with verbose := (change.setting? .verbose).getD reader.verbose }

/-- Open a group that keeps what it matches. -/
def numberedGroup (reader : Reader) : Opening :=
  .group [] (some (reader.groups + 1))
    { reader with groups := reader.groups + 1 }

/-- Read an opening parenthesis and what belongs to it.  A group cannot look
ahead or behind. -/
def opening? (reader : Reader) : Option Opening :=
  let inner := reader.advance
  match inner.rest with
  | '?' :: '=' :: _ | '?' :: '!' :: _ => none
  | '?' :: '<' :: '=' :: _ | '?' :: '<' :: '!' :: _ => none
  | '?' :: 'P' :: '<' :: rest | '?' :: '<' :: rest =>
    (groupName? { inner with rest := rest }).map numberedGroup
  | '?' :: rest =>
    match flags? [] false false rest with
    | some (change, ':' :: last) =>
      some (.group change none ({ inner with rest := last }.obey change))
    | some (change, ')' :: last) =>
      if change = [] then none
      else some (.flags change ({ inner with rest := last }.obey change))
    | _ => none
  | _ => some (numberedGroup inner)

/-- Repeat the last item of a sequence, which is kept in reverse.  A question
mark after the repetition makes it prefer few over many. -/
def repeatLast? (least : Nat) (most : Option Nat) (reader : Reader) :
    List Tree → Option (List Tree × Reader)
  | [] => none
  | item :: items =>
    if item.canRepeat then
      match reader.rest with
      | '?' :: rest =>
        some (.repetition least most false item :: items,
          { reader with rest := rest })
      | _ => some (.repetition least most true item :: items, reader)
    else
      none

/-- The tree of the branches read so far, all kept in reverse. -/
def closeBranches (branches items : List Tree) : Tree :=
  match branches with
  | [] => Tree.ofItems items.reverse
  | _ => .alternation (branches.reverse ++ [Tree.ofItems items.reverse])

/-- Read branches up to a closing parenthesis or the end of the pattern. -/
def branches? : Nat → List Tree → List Tree → Reader → Option (Tree × Reader)
  | 0, _, _, _ => none
  | fuel + 1, branches, items, reader =>
    let reader := reader.settle
    match reader.rest with
    | [] => some (closeBranches branches items, reader)
    | ')' :: _ => some (closeBranches branches items, reader)
    | '|' :: _ =>
      branches? fuel (Tree.ofItems items.reverse :: branches) [] reader.step
    | '(' :: _ =>
      match opening? reader with
      | none => none
      | some (.flags change inner) =>
        branches? fuel branches (.flags change :: items) inner
      | some (.group change index inner) =>
        match branches? fuel [] [] inner with
        | some (body, last) =>
          match last.rest with
          | ')' :: rest =>
            branches? fuel branches (.group change index body :: items)
              { last with rest := rest, verbose := reader.verbose }
          | _ => none
        | none => none
    | '[' :: _ => do
      let (set, last) ← class? reader
      branches? fuel branches (.characters set :: items) last
    | '?' :: _ => do
      let (repeated, last) ← repeatLast? 0 (some 1) reader.step items
      branches? fuel branches repeated last
    | '*' :: _ => do
      let (repeated, last) ← repeatLast? 0 none reader.step items
      branches? fuel branches repeated last
    | '+' :: _ => do
      let (repeated, last) ← repeatLast? 1 none reader.step items
      branches? fuel branches repeated last
    | '\x7b' :: _ => do
      let (least, most, last) ← bounds? reader
      let (repeated, last) ← repeatLast? least most last.advance items
      branches? fuel branches repeated last
    | '\\' :: _ => do
      let (tree, last) ← escape? reader
      branches? fuel branches (tree :: items) last
    | '.' :: _ => branches? fuel branches (.dot :: items) reader.step
    | '^' :: _ =>
      branches? fuel branches (.assertion .lineStart :: items) reader.step
    | '$' :: _ =>
      branches? fuel branches (.assertion .lineEnd :: items) reader.step
    | character :: _ =>
      branches? fuel branches (.literal character false :: items) reader.step

/-- The deepest nesting that is accepted. -/
def maxDepth : Nat := 250

/-- Read a whole pattern. -/
def parse? (verbose : Bool) (pattern : String) : Option Tree := do
  let characters := pattern.toList
  let (tree, last) ←
    branches? (characters.length + 1) [] [] ⟨characters, verbose, [], 0⟩
  if last.rest = [] ∧ tree.depth ≤ maxDepth then some tree else none

end DocQuery.Pattern
