import DocQuery.Pattern.ByteRanges
import DocQuery.Pattern.Expression
import Std.Data.HashMap

/-!
# The size of an automaton

An expression is small enough if the automata that recognise it byte by byte,
from either end of a text, stay below ten mebibytes.  The automata are not
built; only what their states would take is added up, in the order in which
the states would be numbered.

A state takes 32 bytes, every entry in its table of transitions 8 and every
alternative of a fork 4.  Sets of characters beyond ASCII share states as far
as a table of limited size remembers them: `known` maps a place in the table
to what was put there last.
-/

namespace DocQuery.Pattern

open Unicode

/-- How a text is read. -/
inductive Direction where
  | forward
  | backward
  deriving DecidableEq, Repr

/-- What the states counted so far consist of. -/
structure Tally where
  states : Nat
  transitions : Nat
  alternatives : Nat
  deriving DecidableEq, Repr

/-- The size above which an automaton is refused: ten mebibytes. -/
def maxSize : Nat := 0xA00000

namespace Tally

/-- Nothing counted yet. -/
def zero : Tally := ⟨0, 0, 0⟩

/-- The size of all that is counted. -/
def size (tally : Tally) : Nat :=
  32 * tally.states + 8 * tally.transitions + 4 * tally.alternatives

/-- Count more, unless the automaton becomes too large. -/
def add? (tally : Tally) (states transitions alternatives : Nat) :
    Option Tally :=
  let next : Tally := ⟨tally.states + states, tally.transitions + transitions,
    tally.alternatives + alternatives⟩
  if maxSize < next.size then none else some next

theorem size_le_of_add? {tally next : Tally}
    {states transitions alternatives : Nat}
    (h : tally.add? states transitions alternatives = some next) :
    next.size ≤ maxSize := by
  simp only [add?] at h
  split at h
  · simp at h
  · rename_i small
    obtain rfl := Option.some.inj h
    omega

end Tally

/-- One step of a hash over numbers. -/
def mixHash (hash : UInt64) (number : Nat) : UInt64 :=
  (hash ^^^ number.toUInt64) * 1099511628211

/-- The hash of nothing. -/
def hashStart : UInt64 := 14695981039346656037

/-- A transition on a range of bytes to a numbered state. -/
structure Transition where
  range : ByteRange
  next : Nat
  deriving DecidableEq, Repr

/-- A state under construction: its transitions so far, and the range of the
last one, whose end is still open. -/
structure OpenState where
  done : List Transition
  last : Option ByteRange

/-- Direct the open transition of a state to `next`. -/
def OpenState.close (state : OpenState) (next : Nat) : List Transition :=
  match state.last with
  | some range => state.done ++ [⟨range, next⟩]
  | none => state.done

/-- States counted, and those that can be shared. -/
structure Sharing where
  tally : Tally
  /-- The states remembered, by their place in the table. -/
  known : Std.HashMap Nat (List Transition × Nat)

namespace Sharing

/-- How many states are remembered at most. -/
def capacity : Nat := 10000

/-- The place of a state in the table. -/
def place (transitions : List Transition) : Nat :=
  (transitions.foldl (fun hash transition =>
    mixHash (mixHash (mixHash hash transition.range.1) transition.range.2)
      transition.next) hashStart).toNat % capacity

/-- Count a new state and remember it at a place of the table. -/
def remember? (sharing : Sharing) (place : Nat)
    (transitions : List Transition) : Option (Nat × Sharing) :=
  let number := sharing.tally.states
  (sharing.tally.add? 1 transitions.length 0).map fun tally =>
    (number, ⟨tally, sharing.known.insert place (transitions, number)⟩)

/-- The number of a state, which is new unless one like it is remembered. -/
def state? (sharing : Sharing) (transitions : List Transition) :
    Option (Nat × Sharing) :=
  let place := place transitions
  match sharing.known[place]? with
  | some (found, number) =>
    if found = transitions then some (number, sharing)
    else sharing.remember? place transitions
  | none => sharing.remember? place transitions

/-- Finish the states on a path, the innermost first; its last transition
leads to `target`. -/
def finish? (target : Nat) :
    List OpenState → Sharing → Option (Nat × Sharing)
  | [], sharing => some (target, sharing)
  | state :: inner, sharing => do
    let (next, sharing) ← finish? target inner sharing
    sharing.state? (state.close next)

/-- Add a sequence of ranges to the open states on a path: follow the path
where it agrees, finish what is left of it and open new states. -/
def insert? (target : Nat) :
    List OpenState → List ByteRange → Sharing →
      Option (List OpenState × Sharing)
  | state :: inner, range :: ranges, sharing =>
    if state.last = some range then do
      let (inner, sharing) ← insert? target inner ranges sharing
      some (state :: inner, sharing)
    else do
      let (next, sharing) ← finish? target inner sharing
      some (⟨state.close next, some range⟩ ::
        ranges.map fun range => ⟨[], some range⟩, sharing)
  | path, _, sharing => some (path, sharing)

/-- Add sequences one after the other. -/
def insertAll? (target : Nat) :
    List (List ByteRange) → List OpenState → Sharing →
      Option (List OpenState × Sharing)
  | [], path, sharing => some (path, sharing)
  | sequence :: rest, path, sharing =>
    match insert? target path sequence sharing with
    | none => none
    | some (path, sharing) => insertAll? target rest path sharing

end Sharing

/-- Count the states of a set of characters beyond ASCII, read forwards. -/
def countForward? (set : CodeSet) (tally : Tally) : Option Tally := do
  let target := tally.states
  let tally ← tally.add? 1 0 0
  let (path, sharing) ←
    Sharing.insertAll? target (byteSequences set) [⟨[], none⟩] ⟨tally, ∅⟩
  let (_, sharing) ← sharing.finish? target path
  some sharing.tally

/-- States for single ranges of bytes that lead to numbered states, counted
and remembered. -/
structure Chains where
  tally : Tally
  /-- The states remembered, by their place in the table. -/
  known : Std.HashMap Nat (Transition × Nat)

namespace Chains

/-- How many states are remembered at most. -/
def capacity : Nat := 1000

/-- Count a new state and remember it at a place of the table. -/
def remember? (chains : Chains) (place : Nat) (transition : Transition) :
    Option (Nat × Chains) :=
  let number := chains.tally.states
  (chains.tally.add? 1 0 0).map fun tally =>
    (number, ⟨tally, chains.known.insert place (transition, number)⟩)

/-- The number of a state, which is new unless one like it is remembered. -/
def state? (chains : Chains) (transition : Transition) :
    Option (Nat × Chains) :=
  let place := (mixHash (mixHash (mixHash hashStart transition.next)
    transition.range.1) transition.range.2).toNat % capacity
  match chains.known[place]? with
  | some (found, number) =>
    if found = transition then some (number, chains)
    else chains.remember? place transition
  | none => chains.remember? place transition

/-- Count the states of a sequence; the last range read leads to `next`. -/
def insert? (next : Nat) : List ByteRange → Chains → Option Chains
  | [], chains => some chains
  | range :: ranges, chains => do
    let (number, chains) ← chains.state? ⟨range, next⟩
    insert? number ranges chains

/-- Count the states of sequences, and a fork to each. -/
def insertAll? (target : Nat) :
    List (List ByteRange) → Chains → Option Chains
  | [], chains => some chains
  | sequence :: rest, chains =>
    match insert? target sequence chains with
    | none => none
    | some chains =>
      match chains.tally.add? 0 0 1 with
      | none => none
      | some tally => insertAll? target rest { chains with tally := tally }

end Chains

/-- Count the states of a set of characters beyond ASCII, read backwards. -/
def countBackward? (set : CodeSet) (tally : Tally) : Option Tally := do
  let target := tally.states + 1
  let tally ← tally.add? 2 0 0
  let chains ← Chains.insertAll? target (byteSequences set) ⟨tally, ∅⟩
  some chains.tally

/-- Words that share their beginnings.  The branches of a tree are kept in
groups: a word that ends in the tree closes a group, because it comes between
the branches before it and those after it. -/
inductive WordTree where
  | node (closed : List (List (Nat × WordTree)))
    (current : List (Nat × WordTree))

namespace WordTree

/-- No words yet. -/
def leaf : WordTree := .node [] []

/-- No branches. -/
def isLeaf : WordTree → Bool
  | .node closed current => closed.all List.isEmpty && current.isEmpty

/-- A word ends here. -/
def endWord : WordTree → WordTree
  | tree@(.node closed current) =>
    if tree.isLeaf && !closed.isEmpty then tree
    else .node (closed ++ [current]) []

/-- Add a word. -/
def insert : List Nat → WordTree → WordTree
  | [], tree => tree.endWord
  | byte :: word, .node closed current =>
    match current.lookup byte with
    | some branch =>
      .node closed (current.map fun (other, tree) =>
        if other = byte then (byte, insert word branch) else (other, tree))
    | none => .node closed (current ++ [(byte, insert word leaf)])

/-- What a group of branches counts: one state, with a table if there are
several branches. -/
def groupTally : List (Nat × WordTree) → Tally
  | [] => .zero
  | [_] => ⟨1, 0, 1⟩
  | branches => ⟨1, branches.length, 1⟩

/-- The sum of two tallies. -/
def plus (left right : Tally) : Tally :=
  ⟨left.states + right.states, left.transitions + right.transitions,
    left.alternatives + right.alternatives⟩

mutual

/-- What a tree with branches counts: a fork to every group and, between
groups, to the end of the word; the trees of its branches; nothing for a
leaf. -/
def tally : WordTree → Tally
  | tree@(.node closed current) =>
    if tree.isLeaf then
      .zero
    else
      plus ⟨1, 0, closed.length⟩
        (plus (plus (groupTally current) (branchesTally current))
          (groupsTally closed))

/-- What groups of branches count. -/
def groupsTally : List (List (Nat × WordTree)) → Tally
  | [] => .zero
  | group :: groups =>
    plus (plus (groupTally group) (branchesTally group)) (groupsTally groups)

/-- What the trees of branches count. -/
def branchesTally : List (Nat × WordTree) → Tally
  | [] => .zero
  | (_, tree) :: branches => plus (tally tree) (branchesTally branches)

end

end WordTree

namespace Expression

/-- The characters of a literal. -/
def literal? : Expression → Option (List Char)
  | .literal characters => some characters
  | _ => none

/-- The bytes of all branches, if all are literals. -/
def words? (branches : List Expression) : Option (List (List Nat)) :=
  branches.mapM fun branch => branch.literal?.map bytesOfText

end Expression

/-- What is left open by the states of an expression: whether its last state
is a fork, so that to go on takes one more alternative, and all states counted
so far. -/
abbrev Counted := Bool × Tally

/-- Go on from a last state that may be a fork. -/
def Counted.goOn? (counted : Counted) : Option Tally :=
  counted.2.add? 0 0 (if counted.1 then 1 else 0)

/-- Count an expression again and again, each time after the one before. -/
def countCopies? (count : Tally → Option Counted) :
    Nat → Counted → Option Counted
  | 0, before => some before
  | copies + 1, before =>
    match before.goOn? with
    | none => none
    | some tally =>
      match count tally with
      | none => none
      | some next => countCopies? count copies next

/-- Count an expression exactly so many times; none at all take one state. -/
def countExactly? (count : Tally → Option Counted) (copies : Nat)
    (tally : Tally) : Option Counted :=
  match copies with
  | 0 => (tally.add? 1 0 0).map fun tally => (false, tally)
  | copies + 1 =>
    match count tally with
    | none => none
    | some first => countCopies? count copies first

/-- Count copies that may be left out: each with a fork before it. -/
def countOptional? (count : Tally → Option Counted) :
    Nat → Counted → Option Counted
  | 0, before => some before
  | copies + 1, before =>
    match before.goOn? with
    | none => none
    | some tally =>
      match tally.add? 1 0 2 with
      | none => none
      | some tally =>
        match count tally with
        | none => none
        | some next => countOptional? count copies next

/-- Count a repetition.  `canSkip` says that the body may match the empty
text. -/
def countRepetition? (count : Tally → Option Counted) (canSkip : Bool)
    (least : Nat) (most : Option Nat) (tally : Tally) : Option Counted :=
  match least, most with
  | 0, some 1 => do
    let counted ← count (← tally.add? 1 0 2)
    let tally ← counted.goOn?
    some (false, ← tally.add? 1 0 0)
  | 0, none =>
    if canSkip then do
      let counted ← count tally
      let tally ← counted.goOn?
      some (false, ← tally.add? 3 0 4)
    else do
      let counted ← count (← tally.add? 1 0 1)
      some (true, ← counted.goOn?)
  | least, none => do
    let counted ← countExactly? count least tally
    let tally ← counted.goOn?
    some (true, ← tally.add? 1 0 1)
  | least, some most =>
    if least = most then
      countExactly? count least tally
    else do
      let (forks, tally) ← countExactly? count least tally
      let tally ← tally.add? 1 0 0
      let counted ← countOptional? count (most - least) (forks, tally)
      some (false, ← counted.goOn?)

namespace Expression

mutual

/-- Count the states of an expression. -/
def count? (direction : Direction) : Expression → Tally → Option Counted
  | .empty, tally => (tally.add? 1 0 0).map fun tally => (false, tally)
  | .literal characters, tally =>
    (tally.add? (bytesOfText characters).length 0 0).map
      fun tally => (false, tally)
  | .oneOf _ set, tally =>
    let counted :=
      if set.isAscii then tally.add? 2 set.ranges.length 0
      else
        match direction with
        | .forward => countForward? set tally
        | .backward => countBackward? set tally
    counted.map fun tally => (false, tally)
  | .place _, tally => (tally.add? 1 0 0).map fun tally => (false, tally)
  | .repetition least most _ body, tally =>
    countRepetition? (count? direction body)
      (!body.extent.shortest.any (0 < ·)) least most tally
  | .capture _ body, tally =>
    match direction with
    | .backward => count? direction body tally
    | .forward => do
      let counted ← count? direction body (← tally.add? 1 0 0)
      let tally ← counted.goOn?
      some (false, ← tally.add? 1 0 0)
  | .sequence items, tally => countSequence? direction items (false, tally)
  | .choice branches, tally =>
    match words? branches with
    | some words =>
      let words := if direction = .backward then words.map List.reverse else words
      let tree := words.foldl (fun tree word => tree.insert word) WordTree.leaf
      let found := tree.tally
      (tally.add? (found.states + 1) found.transitions found.alternatives).map
        fun tally => (false, tally)
    | none =>
      (countBranches? direction branches 0 tally).map fun tally => (false, tally)

/-- Count expressions one after the other, in the order in which they are
read. -/
def countSequence? (direction : Direction) :
    List Expression → Counted → Option Counted
  | [], before => some before
  | item :: items, before =>
    match direction with
    | .forward => do
      let tally ← before.goOn?
      countSequence? direction items (← count? direction item tally)
    | .backward => do
      let after ← countSequence? direction items before
      count? direction item (← after.goOn?)

/-- Count the branches of a choice, and the fork and the join for them after
the second. -/
def countBranches? (direction : Direction) :
    List Expression → Nat → Tally → Option Tally
  | [], _, tally => some tally
  | branch :: branches, position, tally => do
    let counted ← count? direction branch tally
    let tally ← counted.goOn?
    let tally ← tally.add? (if position = 1 then 2 else 0) 0 1
    countBranches? direction branches (position + 1) tally

end

/-- Count the whole automaton.  Unless every match begins where reading
begins, states come first that pass over the text before the match; forwards,
two more keep the ends of the match. -/
def automaton? (direction : Direction) (expression : Expression) :
    Option Tally := do
  let anchored := match direction with
    | .forward => expression.extent.fromStart
    | .backward => expression.extent.toEnd
  let tally ←
    if anchored then Tally.zero.add? 1 0 0 else Tally.zero.add? 3 1 2
  match direction with
  | .forward => do
    let counted ← expression.count? direction (← tally.add? 1 0 0)
    let tally ← counted.goOn?
    tally.add? 2 0 0
  | .backward => do
    let counted ← expression.count? direction tally
    let tally ← counted.goOn?
    tally.add? 1 0 0

/-- The automata for an expression are small enough. -/
def isSmall (expression : Expression) : Bool :=
  (expression.automaton? .forward).isSome &&
    (expression.automaton? .backward).isSome

end Expression

example : (Expression.literal ['a', 'b']).automaton? .forward =
    some ⟨8, 1, 2⟩ := by decide +kernel

end DocQuery.Pattern
