import DocQuery.Text.Pieces
import DocQuery.Unicode.CodeSet

/-!
# Partitions of the code points

A partition is written as run lengths, each with the tag of the run.  The
points with certain tags form a set.
-/

namespace DocQuery.Unicode

/-- A partition of the code points into tagged runs. -/
structure Partition where
  /-- The first code point of every run and its tag. -/
  runs : Array (Nat × String)
  deriving Inhabited

/-- The words of a text, with blanks between them. -/
def words (text : String) : List (List Char) :=
  (Text.pieces ' ' (text.toList.map fun character =>
    if character.isWhitespace then ' ' else character)).filter (· != [])

/-- The edges between runs with accepted tags and others, and one at the end
of all code points if the last run is accepted. -/
def selectedEdges (accept : String → Bool) (within : Bool) :
    List (Nat × String) → List Nat
  | [] => if within then [0x110000] else []
  | (start, tag) :: rest =>
    let next := accept tag
    let edges := selectedEdges accept next rest
    if next == within then edges else start :: edges

namespace Partition

/-- The code points whose tags are accepted. -/
def select (partition : Partition) (accept : String → Bool) : CodeSet :=
  CodeSet.ofEdges (selectedEdges accept false partition.runs.toList)

/-- Read runs: the digits of a length, then the letters of a tag, with blanks
anywhere.  `tag` holds the letters read so far, last one first. -/
def build (start length : Nat) (tag : List Char)
    (runs : Array (Nat × String)) : List Char → Array (Nat × String)
  | [] =>
    if tag = [] then runs else runs.push (start, String.ofList tag.reverse)
  | character :: rest =>
    match Text.digit? character with
    | some digit =>
      if tag = [] then
        build start (length * 10 + digit) [] runs rest
      else
        build (start + length) digit []
          (runs.push (start, String.ofList tag.reverse)) rest
    | none =>
      if character.isWhitespace then build start length tag runs rest
      else build start length (character :: tag) runs rest

/-- Read a partition from its tagged run lengths. -/
def ofText (text : String) : Partition := ⟨build 0 0 [] #[] text.toList⟩

end Partition

example : ((Partition.ofText "2a3b").select (· == "a")).ranges = [(0, 1)] := by
  decide +kernel

end DocQuery.Unicode
