import DocQuery.Text.Digits

/-!
# Sets of code points

A set of code points is kept as its edges: the points where membership
changes, ascending.  A code point belongs to the set if an odd number of edges
lie at or below it.  The operations on two sets walk along the edges of both.
-/

namespace DocQuery.Unicode

/-- Halve the range `low ≤ i < high` until it is empty; `above i` says that
the answer lies before position `i`.  `fuel` bounds the number of halvings. -/
def halve (above : Nat → Bool) : Nat → Nat → Nat → Nat
  | 0, low, _ => low
  | fuel + 1, low, high =>
    if high ≤ low then
      low
    else
      let middle := (low + high) / 2
      if above middle then
        halve above fuel low middle
      else
        halve above fuel (middle + 1) high

/-- A set of code points. -/
structure CodeSet where
  /-- The points where membership changes, ascending. -/
  edges : Array Nat
  deriving DecidableEq, Inhabited, Repr

/-- Walk along the edges of two sets; `combined` tells from membership in
either set whether a point belongs to the result.  `inLeft`, `inRight` and
`within` say how things stand before the next edge, and `fuel` bounds the
number of edges. -/
def mergeEdges (combined : Bool → Bool → Bool) :
    Nat → Bool → Bool → Bool → List Nat → List Nat → List Nat
  | 0, _, _, _, _, _ => []
  | fuel + 1, inLeft, inRight, within, left, right =>
    match left, right with
    | [], [] => []
    | edge :: others, [] =>
      let next := combined (!inLeft) inRight
      let rest := mergeEdges combined fuel (!inLeft) inRight next others []
      if next == within then rest else edge :: rest
    | [], edge :: others =>
      let next := combined inLeft (!inRight)
      let rest := mergeEdges combined fuel inLeft (!inRight) next [] others
      if next == within then rest else edge :: rest
    | leftEdge :: leftOthers, rightEdge :: rightOthers =>
      if leftEdge < rightEdge then
        let next := combined (!inLeft) inRight
        let rest :=
          mergeEdges combined fuel (!inLeft) inRight next leftOthers right
        if next == within then rest else leftEdge :: rest
      else if rightEdge < leftEdge then
        let next := combined inLeft (!inRight)
        let rest :=
          mergeEdges combined fuel inLeft (!inRight) next left rightOthers
        if next == within then rest else rightEdge :: rest
      else
        let next := combined (!inLeft) (!inRight)
        let rest :=
          mergeEdges combined fuel (!inLeft) (!inRight) next leftOthers
            rightOthers
        if next == within then rest else leftEdge :: rest

/-- The numbers in a text, separated by anything but digits. -/
def numbers (current : Option Nat) : List Char → List Nat
  | [] => current.toList
  | character :: rest =>
    match Text.digit? character with
    | some digit => numbers (some (current.getD 0 * 10 + digit)) rest
    | none => current.toList ++ numbers none rest

/-- The sums of the numbers up to each. -/
def runningSums (start : Nat) : List Nat → List Nat
  | [] => []
  | number :: rest => (start + number) :: runningSums (start + number) rest

/-- Pair up edges as first and last members of ranges. -/
def rangesOfEdges : List Nat → List (Nat × Nat)
  | first :: after :: rest => (first, after - 1) :: rangesOfEdges rest
  | _ => []

namespace CodeSet

/-- The set with the given edges. -/
def ofEdges (edges : List Nat) : CodeSet := ⟨edges.toArray⟩

/-- No code point. -/
def empty : CodeSet := ⟨#[]⟩

/-- The code points of a range, given by its first and last. -/
def between (first last : Nat) : CodeSet :=
  if first ≤ last then ofEdges [first, last + 1] else empty

/-- A single code point. -/
def single (code : Nat) : CodeSet := between code code

/-- Membership of a code point. -/
def contains (set : CodeSet) (code : Nat) : Bool :=
  halve
    (fun index => match set.edges[index]? with
      | some edge => decide (code < edge)
      | none => true)
    32 0 set.edges.size % 2 == 1

/-- The points of two sets that pass a test of membership in either.  The test
must refuse points in neither. -/
def combine (combined : Bool → Bool → Bool) (left right : CodeSet) : CodeSet :=
  ofEdges (mergeEdges combined (left.edges.size + right.edges.size)
    false false false left.edges.toList right.edges.toList)

/-- The points in either set. -/
def union (left right : CodeSet) : CodeSet := combine (· || ·) left right

/-- The points in both sets. -/
def inter (left right : CodeSet) : CodeSet := combine (· && ·) left right

/-- The points in the first set alone. -/
def diff (left right : CodeSet) : CodeSet :=
  combine (fun inLeft inRight => inLeft && !inRight) left right

/-- The points in exactly one of the sets. -/
def symmDiff (left right : CodeSet) : CodeSet := combine (· != ·) left right

/-- All code points that are characters: surrogates are none. -/
def scalars : CodeSet := ofEdges [0, 0xD800, 0xE000, 0x110000]

/-- The characters outside a set. -/
def complement (set : CodeSet) : CodeSet := scalars.diff set

/-- Unite neighbours in a list of sets. -/
def uniteNeighbours : List CodeSet → List CodeSet
  | left :: right :: rest => left.union right :: uniteNeighbours rest
  | sets => sets

/-- Unite neighbours again and again, at most `rounds` times. -/
def uniteRounds : Nat → List CodeSet → CodeSet
  | _, [] => empty
  | _, [set] => set
  | 0, set :: _ => set
  | rounds + 1, sets => uniteRounds rounds (uniteNeighbours sets)

/-- The union of several sets. -/
def unionAll (sets : List CodeSet) : CodeSet := uniteRounds sets.length sets

/-- The set of the given code points. -/
def ofList (codes : List Nat) : CodeSet := unionAll (codes.map single)

/-- Close a set under a table of pairs: all that one code point stands for are
members as soon as it or one of them is. -/
def closure (set : CodeSet) (table : List (Nat × Nat)) : CodeSet :=
  let met := ofList (table.filterMap fun (code, standsFor) =>
    if set.contains code || set.contains standsFor then some standsFor
    else none)
  let variants := ofList (table.filterMap fun (code, standsFor) =>
    if met.contains standsFor then some code else none)
  unionAll [set, met, variants]

/-- The ranges of a set, ascending and apart, by first and last. -/
def ranges (set : CodeSet) : List (Nat × Nat) := rangesOfEdges set.edges.toList

/-- Nothing belongs to the set. -/
def isEmpty (set : CodeSet) : Bool := set.edges.isEmpty

/-- The sole member of a set. -/
def only? (set : CodeSet) : Option Nat :=
  match set.ranges with
  | [(first, last)] => if first = last then some first else none
  | _ => none

/-- The least member of a set. -/
def least? (set : CodeSet) : Option Nat := set.edges[0]?

/-- The greatest member of a set. -/
def greatest? (set : CodeSet) : Option Nat := set.edges.back?.map (· - 1)

/-- All members are ASCII characters. -/
def isAscii (set : CodeSet) : Bool := set.greatest?.all (· < 128)

/-- Read a set from the lengths of its gaps and ranges in turn. -/
def ofText (text : String) : CodeSet :=
  ofEdges (runningSums 0 (numbers none text.toList))

@[simp]
theorem isEmpty_empty : empty.isEmpty = true := rfl

@[simp]
theorem ranges_empty : empty.ranges = [] := rfl

theorem ranges_between {first last : Nat} (h : first ≤ last) :
    (between first last).ranges = [(first, last)] := by
  simp [between, h, ranges, ofEdges, rangesOfEdges]

example : (ofText "1 2 3 1").contains 2 = true := by decide +kernel
example : (ofText "1 2 3 1").contains 3 = false := by decide +kernel
example : ((between 1 5).diff (between 3 9)).ranges = [(1, 2)] := by
  decide +kernel
example : (ofList [7, 3, 4, 4]).ranges = [(3, 4), (7, 7)] := by decide +kernel
example : ((between 1 3).union (between 4 9)).ranges = [(1, 9)] := by
  decide +kernel

end CodeSet

end DocQuery.Unicode
