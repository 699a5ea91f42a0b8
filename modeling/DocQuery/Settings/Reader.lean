import DocQuery.Settings
import DocQuery.Toml.Parser

/-!
# Reading settings

Settings are read from a TOML text.  A key that is absent takes its usual
value, keys of other names are passed over, and a value of the wrong kind is
refused.
-/

namespace DocQuery.Settings

/-- The text of a key, or the usual one. -/
def textOr (usual : String) : Option Toml → Option String
  | none => some usual
  | some (.string text) => some text
  | some _ => none

/-- The text of a key, if it is there. -/
def text? : Option Toml → Option (Option String)
  | none => some none
  | some (.string text) => some (some text)
  | some _ => none

/-- The flag of a key, or the usual one. -/
def flagOr (usual : Bool) : Option Toml → Option Bool
  | none => some usual
  | some (.boolean flag) => some flag
  | some _ => none

/-- Read settings from the entries of a table. -/
def ofEntries? (entries : Toml.Entries) : Option Settings := do
  let usual : Settings := {}
  some {
    dsn := ← textOr usual.dsn (Toml.get? entries "dsn")
    persist := ← flagOr usual.persist (Toml.get? entries "persist")
    persistKey := ← textOr usual.persistKey (Toml.get? entries "persist_key")
    replicaSet := ← text? (Toml.get? entries "replica_set")
    querySafety :=
      ← textOr usual.querySafety (Toml.get? entries "query_safety") }

/-- Read settings from a TOML text. -/
def ofToml (text : String) : Except Failure Settings :=
  match (Toml.parse? text).bind ofEntries? with
  | some settings => .ok settings
  | none => .error .toml

@[simp]
theorem ofEntries?_nil : ofEntries? [] = some {} := rfl

end DocQuery.Settings
