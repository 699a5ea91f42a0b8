/-!
# Blank characters

The characters of the Unicode property `White_Space`, and the removal of a
blank margin from both ends of a text.
-/

namespace DocQuery.Text

/-- A character of the Unicode property `White_Space`. -/
def isBlank (character : Char) : Bool :=
  let code := character.toNat
  (0x09 ≤ code && code ≤ 0x0D) || code == 0x20 || code == 0x85 ||
    code == 0xA0 || code == 0x1680 || (0x2000 ≤ code && code ≤ 0x200A) ||
    code == 0x2028 || code == 0x2029 || code == 0x202F || code == 0x205F ||
    code == 0x3000

/-- Drop the blank characters at both ends. -/
def trimBlank (characters : List Char) : List Char :=
  ((characters.dropWhile isBlank).reverse.dropWhile isBlank).reverse

/-- The text without its blank margin. -/
def trim (text : String) : String :=
  String.ofList (trimBlank text.toList)

@[simp]
theorem toList_trim (text : String) :
    (trim text).toList = trimBlank text.toList := by
  simp [trim]

@[simp]
theorem trimBlank_nil : trimBlank [] = [] := rfl

end DocQuery.Text
