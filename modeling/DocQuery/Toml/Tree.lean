import DocQuery.Number.Binary64

/-!
# TOML tables

The tables of a TOML text and how its lines fill them.  Every table remembers
how it came into being, because that decides who may add to it: a table that
was only passed through by a header may get a header of its own later, a table
made by a dotted key takes further dotted keys, and an inline table takes
nothing any more.
-/

namespace DocQuery

/-- How a table came into being. -/
inductive Toml.Origin where
  /-- It was passed through by the header of a table inside it. -/
  | implied
  /-- It has a header. -/
  | header
  /-- It was passed through by a dotted key. -/
  | dotted
  /-- It was written as a value. -/
  | inline
  deriving DecidableEq, Repr

/-- A value of a TOML text. -/
inductive Toml where
  | string (text : String)
  | boolean (flag : Bool)
  | integer (value : Int)
  | float (value : Binary64)
  /-- A date, a time, or both, as it is written. -/
  | moment (text : String)
  | array (items : List Toml)
  | table (origin : Toml.Origin) (entries : List (String × Toml))
  /-- The tables under a repeated header: the newest, and the older ones. -/
  | tables (newest : List (String × Toml))
      (older : List (List (String × Toml)))
  deriving Inhabited

namespace Toml

/-- The keys of a table with their values. -/
abbrev Entries := List (String × Toml)

/-- Change the value of a key, which may have none yet; the change may
fail. -/
def alter (key : String) (change : Option Toml → Option Toml) :
    Entries → Option Entries
  | [] => (change none).map fun value => [(key, value)]
  | (known, old) :: rest =>
    if known = key then
      (change (some old)).map fun value => (known, value) :: rest
    else
      (alter key change rest).map fun others => (known, old) :: others

/-- Change the table that a header stands in.  Tables on the way come into
being; repeated ones are entered at the newest. -/
def enter : List String → (Entries → Option Entries) → Entries → Option Entries
  | [], change, entries => change entries
  | key :: rest, change, entries =>
    entries |> alter key fun
      | none => (enter rest change []).map (.table .implied)
      | some (.table .inline _) => none
      | some (.table origin inner) =>
        (enter rest change inner).map (.table origin)
      | some (.tables newest older) =>
        (enter rest change newest).map fun next => .tables next older
      | some _ => none

/-- Give a table its header. -/
def openTable (path : List String) (key : String) : Entries → Option Entries :=
  enter path <| alter key fun
    | none => some (.table .header [])
    | some (.table .implied inner) => some (.table .header inner)
    | some _ => none

/-- Begin another table under a repeated header. -/
def openElement (path : List String) (key : String) :
    Entries → Option Entries :=
  enter path <| alter key fun
    | none => some (.tables [] [])
    | some (.tables newest older) => some (.tables [] (newest :: older))
    | some _ => none

/-- Give a dotted key a value, which it must not have yet.  A table that the
header of another one passed through, and the newest table under a repeated
header, may be passed through, but take no value themselves. -/
def assign : List String → String → Toml → Entries → Option Entries
  | [], key, value, entries =>
    entries |> alter key fun
      | none => some value
      | some _ => none
  | first :: rest, key, value, entries =>
    entries |> alter first fun
      | none => (assign rest key value []).map (.table .dotted)
      | some (.table .dotted inner) =>
        (assign rest key value inner).map (.table .dotted)
      | some (.table .implied inner) =>
        if rest.isEmpty then none
        else (assign rest key value inner).map (.table .implied)
      | some (.tables newest older) =>
        if rest.isEmpty then none
        else (assign rest key value newest).map fun next => .tables next older
      | some _ => none

/-- The value of a key. -/
def get? (entries : Entries) (key : String) : Option Toml := entries.lookup key

end Toml

end DocQuery
