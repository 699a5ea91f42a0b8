import DocQuery.Unicode.CodeSet

/-!
# Expressions

A pattern whose flags are resolved.  An expression is kept in a normal form:
neighbouring characters are joined to a literal, sequences and choices do not
nest directly, a choice among characters is a set, and what every branch of a
choice begins with is written once.  The functions `ofSet`, `repeated`,
`joined` and `either` build expressions in that form.

`Expression.extent` bounds the length of what an expression matches and says
whether it can only match at an end of the text.
-/

namespace DocQuery.Pattern

open Unicode

/-- A place in a text, told by its neighbours. -/
inductive Place where
  | textStart
  | textEnd
  /-- The start of a line; `crlf` lets a line end in carriage return and line
  feed. -/
  | lineStart (crlf : Bool)
  | lineEnd (crlf : Bool)
  /-- A place at a word, of Unicode characters or of ASCII. -/
  | boundary (unicode : Bool)
  | notBoundary (unicode : Bool)
  | wordStart (unicode : Bool)
  | wordEnd (unicode : Bool)
  | wordStartHalf (unicode : Bool)
  | wordEndHalf (unicode : Bool)
  deriving DecidableEq, Repr

/-- A pattern over sets of characters and places. -/
inductive Expression where
  /-- The empty text. -/
  | empty
  /-- These characters one after the other, at least one. -/
  | literal (characters : List Char)
  /-- One character of a set; `bytes` says that it is a set of bytes. -/
  | oneOf (bytes : Bool) (set : CodeSet)
  | place (kind : Place)
  /-- As many repetitions as allowed; `greedy` prefers many over few. -/
  | repetition (least : Nat) (most : Option Nat) (greedy : Bool)
    (body : Expression)
  /-- A group that keeps what it matches, by its number. -/
  | capture (index : Nat) (body : Expression)
  | sequence (items : List Expression)
  | choice (branches : List Expression)
  deriving Repr

namespace Expression

mutual

/-- Equality of expressions. -/
def same : Expression → Expression → Bool
  | .empty, .empty => true
  | .literal left, .literal right => left == right
  | .oneOf leftBytes left, .oneOf rightBytes right =>
    leftBytes == rightBytes && left == right
  | .place left, .place right => left == right
  | .repetition least most greedy body, .repetition least' most' greedy' body' =>
    least == least' && most == most' && greedy == greedy' && same body body'
  | .capture index body, .capture index' body' =>
    index == index' && same body body'
  | .sequence items, .sequence items' => sameAll items items'
  | .choice branches, .choice branches' => sameAll branches branches'
  | _, _ => false

/-- Equality of lists of expressions. -/
def sameAll : List Expression → List Expression → Bool
  | [], [] => true
  | left :: lefts, right :: rights => same left right && sameAll lefts rights
  | _, _ => false

end

/-- Bounds on what an expression matches, in bytes. -/
structure Extent where
  /-- The length of the shortest match, if there can be one. -/
  shortest : Option Nat
  /-- The length of the longest match, if there is a bound. -/
  longest : Option Nat
  /-- Every match begins at the start of the text. -/
  fromStart : Bool
  /-- Every match ends at the end of the text. -/
  toEnd : Bool
  deriving DecidableEq, Repr

namespace Extent

/-- Nothing but the empty text. -/
def nothing : Extent := ⟨some 0, some 0, false, false⟩

/-- The sum of two lengths, if both are known. -/
def plus (left right : Option Nat) : Option Nat := do
  let first ← left
  let second ← right
  some (first + second)

/-- A length chosen from two that are both known. -/
def pick (choose : Nat → Nat → Nat) (left right : Option Nat) : Option Nat := do
  let first ← left
  let second ← right
  some (choose first second)

/-- One match after the other.  What a match without length asks of its place
counts for the sequence, too. -/
def followedBy (first second : Extent) : Extent :=
  ⟨plus first.shortest second.shortest, plus first.longest second.longest,
    first.fromStart || (first.longest == some 0 && second.fromStart),
    second.toEnd || (second.longest == some 0 && first.toEnd)⟩

/-- A match of either kind. -/
def or (first second : Extent) : Extent :=
  ⟨pick min first.shortest second.shortest,
    pick max first.longest second.longest,
    first.fromStart && second.fromStart, first.toEnd && second.toEnd⟩

/-- Repeated matches. -/
def times (least : Nat) (most : Option Nat) (body : Extent) : Extent :=
  ⟨body.shortest.map (· * least), pick (· * ·) most body.longest,
    least != 0 && body.fromStart, least != 0 && body.toEnd⟩

end Extent

/-- The count of bytes of a code point. -/
def byteLength (code : Nat) : Nat := (Char.ofNat code).utf8Size

/-- The count of bytes of a text. -/
def textLength : List Char → Nat
  | [] => 0
  | character :: rest => character.utf8Size + textLength rest

mutual

/-- Bounds on what an expression matches. -/
def extent : Expression → Extent
  | .empty => .nothing
  | .literal characters =>
    ⟨some (textLength characters), some (textLength characters), false, false⟩
  | .oneOf _ set =>
    ⟨set.least?.map byteLength, set.greatest?.map byteLength, false, false⟩
  | .place kind =>
    { Extent.nothing with
      fromStart := kind == .textStart
      toEnd := kind == .textEnd }
  | .repetition least most _ body => body.extent.times least most
  | .capture _ body => body.extent
  | .sequence items => sequenceExtent items
  | .choice branches => choiceExtent branches

/-- Bounds on matches one after the other. -/
def sequenceExtent : List Expression → Extent
  | [] => .nothing
  | item :: items => item.extent.followedBy (sequenceExtent items)

/-- Bounds on matches of any branch. -/
def choiceExtent : List Expression → Extent
  | [] => .nothing
  | [branch] => branch.extent
  | branch :: branches => branch.extent.or (choiceExtent branches)

end

/-- Nothing but the empty text can match. -/
def isEmptyOnly (expression : Expression) : Bool :=
  expression.extent.longest == some 0

/-- No text at all matches. -/
def never : Expression := .oneOf true .empty

/-- One character of a set; a set of one is a literal. -/
def ofSet (bytes : Bool) (set : CodeSet) : Expression :=
  if set.isEmpty then
    never
  else
    match set.only? with
    | some code => .literal [Char.ofNat code]
    | none => .oneOf bytes set

/-- Repeat an expression.  The empty text needs no second repetition. -/
def repeated (least : Nat) (most : Option Nat) (greedy : Bool)
    (body : Expression) : Expression :=
  let (least, most) :=
    if body.isEmptyOnly then (min least 1, some (min (most.getD 1) 1))
    else (least, most)
  if most = some 0 then .empty
  else if least = 1 ∧ most = some 1 then body
  else .repetition least most greedy body

/-- The items of a sequence, or the expression itself. -/
def items : Expression → List Expression
  | .empty => []
  | .sequence items => items
  | other => [other]

/-- Join neighbouring literals. -/
def joinLiterals : List Expression → List Expression
  | [] => []
  | .literal characters :: rest =>
    match joinLiterals rest with
    | .literal others :: last => .literal (characters ++ others) :: last
    | last => .literal characters :: last
  | item :: rest => item :: joinLiterals rest

/-- One expression after the other. -/
def joined (expressions : List Expression) : Expression :=
  match joinLiterals (expressions.flatMap items) with
  | [] => .empty
  | [item] => item
  | items => .sequence items

/-- The branches of a choice, or the expression itself. -/
def branches : Expression → List Expression
  | .choice branches => branches
  | other => [other]

/-- The character of a literal of one character. -/
def character? : Expression → Option Char
  | .literal [character] => some character
  | _ => none

/-- The set of an expression for one character of a set. -/
def set? : Expression → Option (Bool × CodeSet)
  | .oneOf bytes set => some (bytes, set)
  | _ => none

/-- A choice among single characters, or among sets, as one set. -/
def choiceSet? (branches : List Expression) : Option Expression :=
  match branches.mapM character? with
  | some characters =>
    some (ofSet false (CodeSet.ofList (characters.map Char.toNat)))
  | none =>
    (branches.mapM set?).map fun sets =>
      ofSet false (CodeSet.unionAll (sets.map Prod.snd))

/-- How many items two sequences begin with in common. -/
def commonLength : List Expression → List Expression → Nat
  | left :: lefts, right :: rights =>
    if same left right then commonLength lefts rights + 1 else 0
  | _, _ => 0

/-- How many items all sequences begin with in common, at most `bound`.
Anything but a sequence has nothing in common with others. -/
def commonItems (first : List Expression) (bound : Nat) :
    List Expression → Nat
  | [] => bound
  | .sequence items :: rest =>
    commonItems first (min bound (commonLength first items)) rest
  | _ :: _ => 0

/-- The items of a sequence past the first ones, joined. -/
def dropItems (count : Nat) : Expression → Expression
  | .sequence items => joined (items.drop count)
  | other => other

/-- Any one of at least two expressions that are no choices.  What all of them
begin with is written once; every time it shortens the sequences, so `fuel`
need not exceed their length. -/
def eitherOf : Nat → List Expression → Expression
  | fuel, branches =>
    match choiceSet? branches with
    | some set => set
    | none =>
      match fuel, branches with
      | fuel + 1, .sequence items :: rest =>
        match commonItems items items.length rest with
        | 0 => .choice branches
        | count + 1 =>
          let tails := (branches.map (dropItems (count + 1))).flatMap
            Expression.branches
          joined (items.take (count + 1) ++ [eitherOf fuel tails])
      | _, _ => .choice branches

/-- Any one of the expressions. -/
def either (expressions : List Expression) : Expression :=
  match expressions.flatMap branches with
  | [] => never
  | [branch] => branch
  | branches =>
    let fuel := match branches with
      | .sequence items :: _ => items.length
      | _ => 0
    eitherOf fuel branches

@[simp]
theorem joined_nil : joined [] = .empty := rfl

@[simp]
theorem either_nil : either [] = never := rfl

@[simp]
theorem extent_empty : extent .empty = .nothing := by simp [extent]

end Expression

end DocQuery.Pattern
