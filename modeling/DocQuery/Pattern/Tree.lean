/-!
# Patterns as written

The tree of a regular expression.  Flags are kept where they are
written: at the front of a group, or alone, where they hold for the rest of
the enclosing group.
-/

namespace DocQuery.Pattern

/-- A switch that changes how the rest of a pattern is read or matched. -/
inductive Flag where
  /-- `i`: letters match in either case. -/
  | ignoreCase
  /-- `m`: `^` and `$` match at the ends of lines. -/
  | multiLine
  /-- `s`: the dot matches the end of a line. -/
  | dotAll
  /-- `U`: repetitions prefer few or many in the opposite way. -/
  | swapGreed
  /-- `u`: characters are code points and not bytes. -/
  | unicode
  /-- `R`: a line may end in carriage return and line feed. -/
  | crlf
  /-- `x`: blanks and comments in the pattern mean nothing. -/
  | verbose
  deriving DecidableEq, Repr

/-- The settings that a list of flags makes, in order. -/
abbrev FlagChange := List (Flag × Bool)

/-- A place that a pattern can ask for. -/
inductive Assertion where
  | lineStart
  | lineEnd
  | textStart
  | textEnd
  | wordBoundary
  | notWordBoundary
  | wordStart
  | wordEnd
  | wordStartHalf
  | wordEndHalf
  deriving DecidableEq, Repr

/-- A class written with a backslash. -/
inductive ShortClass where
  | digit
  | space
  | word
  deriving DecidableEq, Repr

/-- A class written as a name between colons, of ASCII characters only. -/
inductive AsciiClass where
  | alnum
  | alpha
  | ascii
  | blank
  | cntrl
  | digit
  | graph
  | lower
  | print
  | punct
  | space
  | upper
  | word
  | xdigit
  deriving DecidableEq, Repr

/-- What a property class asks for. -/
inductive PropertyQuery where
  /-- A property, category or script by its name. -/
  | named (name : String)
  /-- A value of a property. -/
  | valued (property value : String)
  deriving DecidableEq, Repr

/-- An operation between two sets of characters. -/
inductive SetOperation where
  | intersection
  | difference
  | symmetricDifference
  deriving DecidableEq, Repr

/-- A set of characters as written. -/
inductive CharacterClass where
  | none
  | character (value : Char)
  | range (first last : Char)
  | short (kind : ShortClass) (negated : Bool)
  | ascii (kind : AsciiClass) (negated : Bool)
  | property (query : PropertyQuery) (negated : Bool)
  | bracket (negated : Bool) (body : CharacterClass)
  | union (left right : CharacterClass)
  | operation (kind : SetOperation) (left right : CharacterClass)
  deriving Repr

/-- A pattern as written. -/
inductive Tree where
  | empty
  /-- Flags that stand alone. -/
  | flags (change : FlagChange)
  /-- One character; `byte` says that it is written as a byte. -/
  | literal (value : Char) (byte : Bool)
  | dot
  | assertion (kind : Assertion)
  | characters (set : CharacterClass)
  /-- As many repetitions as allowed; `greedy` prefers many over few. -/
  | repetition (least : Nat) (most : Option Nat) (greedy : Bool) (body : Tree)
  /-- A group with flags; one that keeps what it matches has a number. -/
  | group (change : FlagChange) (index : Option Nat) (body : Tree)
  | sequence (items : List Tree)
  | alternation (branches : List Tree)
  deriving Repr

/-- The nesting of a set with a number of items, of which the deepest is
given.  Only several items make a union. -/
def unionDepth (count deepest : Nat) : Nat :=
  if 2 ≤ count then deepest + 1 else deepest

/-- The number of items of a set and the nesting of the deepest. -/
def CharacterClass.nesting : CharacterClass → Nat × Nat
  | .none => (0, 0)
  | .union left right =>
    let (leftCount, leftDepth) := left.nesting
    let (rightCount, rightDepth) := right.nesting
    (leftCount + rightCount, max leftDepth rightDepth)
  | .bracket _ body =>
    let (count, deepest) := body.nesting
    (1, unionDepth count deepest + 1)
  | .operation _ left right =>
    let (leftCount, leftDepth) := left.nesting
    let (rightCount, rightDepth) := right.nesting
    (1, max (unionDepth leftCount leftDepth)
      (unionDepth rightCount rightDepth) + 1)
  | _ => (1, 0)

/-- The nesting of sets inside a set. -/
def CharacterClass.depth (set : CharacterClass) : Nat :=
  unionDepth set.nesting.1 set.nesting.2

mutual

/-- The nesting of a pattern; characters, places and flags do not nest. -/
def Tree.depth : Tree → Nat
  | .characters set => set.depth
  | .repetition _ _ _ body => body.depth + 1
  | .group _ _ body => body.depth + 1
  | .sequence items => Tree.depthOf items + 1
  | .alternation branches => Tree.depthOf branches + 1
  | _ => 0

/-- The greatest nesting among patterns. -/
def Tree.depthOf : List Tree → Nat
  | [] => 0
  | pattern :: rest => max pattern.depth (Tree.depthOf rest)

end

/-- One pattern for the items of a sequence. -/
def Tree.ofItems : List Tree → Tree
  | [] => .empty
  | [item] => item
  | items => .sequence items

/-- Whether a repetition can follow a pattern. -/
def Tree.canRepeat : Tree → Bool
  | .empty | .flags _ => false
  | _ => true

end DocQuery.Pattern
