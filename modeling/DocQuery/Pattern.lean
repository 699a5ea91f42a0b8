import DocQuery.Pattern.Automaton
import DocQuery.Pattern.Matching
import DocQuery.Pattern.Meaning
import DocQuery.Pattern.Parser

/-!
# Patterns

A pattern with option letters is compiled to an expression, or refused; a
compiled pattern is looked for anywhere in a text.
-/

namespace DocQuery.Pattern

/-- Why a pattern cannot be compiled. -/
inductive Refusal where
  /-- An option letter other than `i`, `m`, `s` and `x`. -/
  | unknownFlag (flag : Char)
  /-- A pattern that cannot be read, or is too large. -/
  | malformed
  deriving DecidableEq, Repr

/-- The options of a pattern. -/
structure Options where
  settings : Settings
  /-- Blanks and comments in the pattern mean nothing. -/
  verbose : Bool
  deriving DecidableEq, Repr

/-- Read option letters; each switches one option on. -/
def options (start : Options) : List Char → Except Refusal Options
  | [] => .ok start
  | 'i' :: rest =>
    options { start with settings.ignoreCase := true } rest
  | 'm' :: rest =>
    options { start with settings.multiLine := true } rest
  | 's' :: rest =>
    options { start with settings.dotAll := true } rest
  | 'x' :: rest => options { start with verbose := true } rest
  | flag :: _ => .error (.unknownFlag flag)

/-- Compile a pattern under option letters. -/
def compile (pattern letters : String) : Except Refusal Expression := do
  let chosen ← options ⟨.initial, false⟩ letters.toList
  match parse? chosen.verbose pattern with
  | none => .error .malformed
  | some tree =>
    match tree.meaning? chosen.settings with
    | none => .error .malformed
    | some (expression, _) =>
      if expression.isSmall then .ok expression else .error .malformed

end DocQuery.Pattern
