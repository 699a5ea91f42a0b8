import DocQuery.Pattern.Tree
import DocQuery.Unicode.Folding
import DocQuery.Unicode.Named

/-!
# Sets of characters

The characters that a class denotes.  In Unicode mode a class ranges over all
characters; otherwise over bytes, and a class that holds a byte above 127 is
refused, because such a byte is no character of its own.
-/

namespace DocQuery.Pattern

open Unicode

/-- How classes are read. -/
structure ClassMode where
  /-- Letters stand for their case variants too. -/
  ignoreCase : Bool
  /-- Characters are code points. -/
  unicode : Bool

/-- The code points from one character to another. -/
def between (first last : Char) : CodeSet :=
  CodeSet.between first.toNat last.toNat

/-- ASCII letters and digits. -/
def asciiAlphanumeric : CodeSet :=
  CodeSet.unionAll [between '0' '9', between 'A' 'Z', between 'a' 'z']

/-- The ASCII characters of a named class. -/
def AsciiClass.characters : AsciiClass → CodeSet
  | .alnum => asciiAlphanumeric
  | .alpha => (between 'A' 'Z').union (between 'a' 'z')
  | .ascii => CodeSet.between 0 127
  | .blank => CodeSet.ofList [9, 32]
  | .cntrl => (CodeSet.between 0 31).union (CodeSet.single 127)
  | .digit => between '0' '9'
  | .graph => between '!' '~'
  | .lower => between 'a' 'z'
  | .print => between ' ' '~'
  | .punct => (between '!' '~').diff asciiAlphanumeric
  | .space => (CodeSet.between 9 13).union (CodeSet.single 32)
  | .upper => between 'A' 'Z'
  | .word => asciiAlphanumeric.union (between '_' '_')
  | .xdigit =>
    CodeSet.unionAll [between '0' '9', between 'A' 'F', between 'a' 'f']

/-- The characters of a short class. -/
def ShortClass.characters (unicode : Bool) : ShortClass → CodeSet
  | .digit => if unicode then decimalDigits else AsciiClass.digit.characters
  | .space => if unicode then whiteSpace else AsciiClass.space.characters
  | .word => if unicode then wordCharacters else AsciiClass.word.characters

/-- The characters that a property class asks for. -/
def PropertyQuery.characters? : PropertyQuery → Option CodeSet
  | .named name => named? name
  | .valued property value => valueNamed? property value

namespace ClassMode

/-- Add the case variants of all members. -/
def fold (mode : ClassMode) (set : CodeSet) : CodeSet :=
  if mode.ignoreCase then
    set.closure (if mode.unicode then foldPairs else asciiFoldPairs)
  else
    set

/-- All that a class can hold. -/
def everything (mode : ClassMode) : CodeSet :=
  if mode.unicode then CodeSet.scalars else CodeSet.between 0 255

/-- Take the opposite of a set if asked to. -/
def complementIf (mode : ClassMode) (negated : Bool) (set : CodeSet) :
    CodeSet :=
  if negated then mode.everything.diff set else set

/-- Refuse a set of bytes that are no characters. -/
def admit? (mode : ClassMode) (set : CodeSet) : Option CodeSet :=
  if mode.unicode || set.isAscii then some set else none

/-- A character can be a member of a class. -/
def admitsMember (mode : ClassMode) (value : Char) : Bool :=
  mode.unicode || decide (value.toNat < 128)

end ClassMode

/-- Combine two sets. -/
def SetOperation.combine : SetOperation → CodeSet → CodeSet → CodeSet
  | .intersection => CodeSet.inter
  | .difference => CodeSet.diff
  | .symmetricDifference => CodeSet.symmDiff

/-- The characters that a class denotes, unless the mode refuses it. -/
def CharacterClass.members? (mode : ClassMode) :
    CharacterClass → Option CodeSet
  | .none => some CodeSet.empty
  | .character value =>
    if mode.admitsMember value then some (between value value)
    else Option.none
  | .range first last =>
    if mode.admitsMember first && mode.admitsMember last then
      some ((between first last).inter CodeSet.scalars)
    else
      Option.none
  | .short kind negated =>
    mode.admit? (mode.complementIf negated (kind.characters mode.unicode))
  | .ascii kind negated =>
    mode.admit? (mode.complementIf negated (mode.fold kind.characters))
  | .property query negated =>
    if mode.unicode then
      query.characters?.map fun set =>
        mode.complementIf negated (mode.fold set)
    else
      Option.none
  | .bracket negated body => do
    let set ← body.members? mode
    mode.admit? (mode.complementIf negated (mode.fold set))
  | .union left right => do
    let first ← left.members? mode
    let second ← right.members? mode
    some (first.union second)
  | .operation kind left right => do
    let first ← left.members? mode
    let second ← right.members? mode
    some (kind.combine (mode.fold first) (mode.fold second))

end DocQuery.Pattern
