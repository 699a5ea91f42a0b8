import DocQuery.Text.Blank
import DocQuery.Value

/-!
# Text patterns

A text is turned into a pattern that looks for it: without its blank margin,
with a backslash before characters of special meaning, and with an anchor at
the ends that are not left open.
-/

namespace DocQuery

/-- A pattern with option letters, as a predicate on a field. -/
structure TextPattern where
  pattern : String
  flags : String
  deriving DecidableEq, Repr, Inhabited

/-- The operators that look for the pattern. -/
def TextPattern.toDocument (pattern : TextPattern) : Document :=
  [("$regex", .string pattern.pattern), ("$options", .string pattern.flags)]

/-- How a text is looked for. -/
structure LikeOptions where
  /-- The option letters. -/
  flags : String := "i"
  /-- Other text may stand before. -/
  startOpen : Bool := true
  /-- Other text may stand after. -/
  endOpen : Bool := true
  deriving DecidableEq, Repr, Inhabited

namespace LikeOptions

/-- Use other option letters. -/
def withFlags (options : LikeOptions) (flags : String) : LikeOptions :=
  { options with flags := flags }

/-- Close the ends that are to be anchored, and open the others. -/
def anchored (options : LikeOptions) (atStart atEnd : Bool) : LikeOptions :=
  { options with startOpen := !atStart, endOpen := !atEnd }

end LikeOptions

namespace Like

/-- The characters that get a backslash. -/
def escaped : List Char := ['.', '\\', '+', '*', '?', '[', '^', ']', '$', '(', ')']

/-- Put a backslash before special characters. -/
def escapeCharacters : List Char → List Char
  | [] => []
  | character :: rest =>
    if escaped.contains character then '\\' :: character :: escapeCharacters rest
    else character :: escapeCharacters rest

/-- Put a backslash before special characters of a text. -/
def escape (text : String) : String :=
  String.ofList (escapeCharacters text.toList)

/-- The pattern that looks for a text. -/
def pattern (text : String) (options : LikeOptions) : TextPattern :=
  let body := escapeCharacters (Text.trimBlank text.toList)
  let opened := if options.startOpen then body else '^' :: body
  let closed := if options.endOpen then opened else opened ++ ['$']
  ⟨String.ofList closed, options.flags⟩

end Like

end DocQuery
