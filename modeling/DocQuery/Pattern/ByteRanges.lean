import DocQuery.Unicode.CodeSet

/-!
# Sets of characters as bytes

The UTF-8 encodings of the characters of a set, as sequences of ranges of
bytes: a text is the encoding of a member exactly if its bytes lie in the
ranges of one sequence.  A range of characters is cut until all that is left
varies freely in every byte.
-/

namespace DocQuery.Pattern

open Unicode

/-- A range of bytes by its first and last. -/
abbrev ByteRange := Nat × Nat

/-- The last code points that fit in one, two and three bytes. -/
def lengthEnds : List Nat := [0x7F, 0x7FF, 0xFFFF]

/-- How many code points share all but the last, the last two and the last
three bytes. -/
def blockSizes : List Nat := [0x40, 0x1000, 0x40000]

/-- Where to cut a range of code points of one length, so that a part fills
whole blocks: the last code point before the cut. -/
def blockCut? (first last : Nat) : List Nat → Option Nat
  | [] => none
  | size :: sizes =>
    if first / size = last / size then
      blockCut? first last sizes
    else if first % size ≠ 0 then
      some (first - first % size + (size - 1))
    else if last % size ≠ size - 1 then
      some (last - last % size - 1)
    else
      blockCut? first last sizes

/-- Where to cut a range of code points: where the length of the encoding
changes, and then between blocks. -/
def rangeCut? (first last : Nat) : Option Nat :=
  match lengthEnds.find? fun limit => first ≤ limit && limit < last with
  | some limit => some limit
  | none => if last ≤ 0x7F then none else blockCut? first last blockSizes

/-- Cut a range into ranges that vary freely in every byte.  `fuel` bounds the
cuts on top of each other, of which there are at most nine. -/
def freeRanges : Nat → Nat → Nat → List (Nat × Nat)
  | 0, first, last => [(first, last)]
  | fuel + 1, first, last =>
    match rangeCut? first last with
    | none => [(first, last)]
    | some limit =>
      freeRanges fuel first limit ++ freeRanges fuel (limit + 1) last

/-- The bytes of a code point. -/
def bytesOf (code : Nat) : List Nat :=
  (String.utf8EncodeChar (Char.ofNat code)).map UInt8.toNat

/-- The encodings of a set of characters, ascending. -/
def byteSequences (set : CodeSet) : List (List ByteRange) :=
  (set.ranges.flatMap fun (first, last) => freeRanges 16 first last).map
    fun (first, last) => (bytesOf first).zip (bytesOf last)

/-- The bytes of a text. -/
def bytesOfText (characters : List Char) : List Nat :=
  characters.flatMap fun character => bytesOf character.toNat

example : byteSequences (CodeSet.between 0x41 0xBF) =
    [[(0x41, 0x7F)], [(0xC2, 0xC2), (0x80, 0xBF)]] := by decide +kernel

end DocQuery.Pattern
