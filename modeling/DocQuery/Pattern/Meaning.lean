import DocQuery.Pattern.CharacterSet
import DocQuery.Pattern.Expression

/-!
# Meaning of patterns

A tree with flags becomes an expression without: every character and place is
resolved under the flags that hold where it stands.
-/

namespace DocQuery.Pattern

open Unicode

/-- The flags that hold at some place of a pattern. -/
structure Settings where
  ignoreCase : Bool
  multiLine : Bool
  dotAll : Bool
  crlf : Bool
  swapGreed : Bool
  unicode : Bool
  deriving DecidableEq, Repr

namespace Settings

/-- Nothing but Unicode is switched on. -/
def initial : Settings := ⟨false, false, false, false, false, true⟩

/-- Make one setting. -/
def set (settings : Settings) : Flag × Bool → Settings
  | (.ignoreCase, on) => { settings with ignoreCase := on }
  | (.multiLine, on) => { settings with multiLine := on }
  | (.dotAll, on) => { settings with dotAll := on }
  | (.crlf, on) => { settings with crlf := on }
  | (.swapGreed, on) => { settings with swapGreed := on }
  | (.unicode, on) => { settings with unicode := on }
  | (.verbose, _) => settings

/-- Make settings in order. -/
def apply (settings : Settings) (change : FlagChange) : Settings :=
  change.foldl set settings

/-- How classes are read under these settings. -/
def classMode (settings : Settings) : ClassMode :=
  ⟨settings.ignoreCase, settings.unicode⟩

/-- The ends of lines, which a dot does not stand for. -/
def lineEnds (settings : Settings) : CodeSet :=
  if settings.dotAll then CodeSet.empty
  else if settings.crlf then CodeSet.ofList ['\n'.toNat, '\r'.toNat]
  else CodeSet.single '\n'.toNat

/-- A set of characters of the kind that the settings ask for. -/
def ofSet (settings : Settings) (set : CodeSet) : Expression :=
  Expression.ofSet (!settings.unicode) set

/-- The place that an assertion asks for. -/
def place (settings : Settings) : Assertion → Place
  | .lineStart =>
    if settings.multiLine then .lineStart settings.crlf else .textStart
  | .lineEnd => if settings.multiLine then .lineEnd settings.crlf else .textEnd
  | .textStart => .textStart
  | .textEnd => .textEnd
  | .wordBoundary => .boundary settings.unicode
  | .notWordBoundary => .notBoundary settings.unicode
  | .wordStart => .wordStart settings.unicode
  | .wordEnd => .wordEnd settings.unicode
  | .wordStartHalf => .wordStartHalf settings.unicode
  | .wordEndHalf => .wordEndHalf settings.unicode

/-- A single character with its case variants.  A byte above 127 is refused;
bytes that are no letters have no variants. -/
def literal? (settings : Settings) (value : Char) (byte : Bool) :
    Option Expression :=
  if settings.unicode then
    some (settings.ofSet (settings.classMode.fold (between value value)))
  else if value.toNat < 128 then
    some (settings.ofSet (settings.classMode.fold (between value value)))
  else if byte then
    none
  else
    some (.literal [value])

end Settings

mutual

/-- The expression of a tree, and the settings that hold after it. -/
def Tree.meaning? (settings : Settings) :
    Tree → Option (Expression × Settings)
  | .empty => some (.empty, settings)
  | .flags change => some (.empty, settings.apply change)
  | .literal value byte =>
    (settings.literal? value byte).map fun expression => (expression, settings)
  | .dot =>
    if settings.unicode then
      some (settings.ofSet settings.lineEnds.complement, settings)
    else
      none
  | .assertion kind => some (.place (settings.place kind), settings)
  | .characters set =>
    (set.members? settings.classMode).map fun members =>
      (settings.ofSet members, settings)
  | .repetition least most greedy body =>
    (body.meaning? settings).map fun (expression, after) =>
      (.repeated least most (greedy != settings.swapGreed) expression, after)
  | .group change index body =>
    (body.meaning? (settings.apply change)).map fun (expression, _) =>
      match index with
      | some index => (.capture index expression, settings)
      | none => (expression, settings)
  | .sequence items =>
    (Tree.meanings? settings items).map fun (expressions, after) =>
      (.joined expressions, after)
  | .alternation branches =>
    (Tree.meanings? settings branches).map fun (expressions, after) =>
      (.either expressions, after)

/-- The expressions of trees, where the flags set by one hold for those after
it. -/
def Tree.meanings? (settings : Settings) :
    List Tree → Option (List Expression × Settings)
  | [] => some ([], settings)
  | tree :: rest => do
    let (expression, next) ← tree.meaning? settings
    let (expressions, last) ← Tree.meanings? next rest
    some (expression :: expressions, last)

end

end DocQuery.Pattern
