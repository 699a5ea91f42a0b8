import DocQuery.Clause.WriteDefaults
import DocQuery.Failure
import DocQuery.Text.Blank
import DocQuery.Text.Pieces

/-!
# Settings

The settings of a builder as they are written down, and as they are used once
the connection string was found to name a database.
-/

namespace DocQuery

/-- Settings as they are written down. -/
structure Settings where
  /-- The connection string. -/
  dsn : String := "mongodb://localhost:27017/admin"
  /-- Connections are kept under a key. -/
  persist : Bool := true
  persistKey : String := "mongoqb"
  replicaSet : Option String := none
  /-- The option that asks for an acknowledged write. -/
  querySafety : String := WriteDefaults.usualSafetyKey
  deriving DecidableEq, Repr, Inhabited

/-- Settings as they are used. -/
structure ConnectionSettings where
  dsn : String
  /-- The database that the connection string names. -/
  database : String
  /-- The key under which connections are kept, if they are. -/
  persistKey : Option String
  replicaSet : Option String
  querySafety : String
  deriving DecidableEq, Repr, Inhabited

namespace Settings

/-- The rest of a connection string after its scheme. -/
def withoutScheme (characters : List Char) : List Char :=
  match Text.cutText? "://".toList characters with
  | some (_, rest) => rest
  | none => characters

/-- The name of the database: the last part of the path after the hosts and
before the options.  It is empty if the connection string names none. -/
def databaseOf (characters : List Char) : List Char :=
  match Text.cut? '/' (withoutScheme characters) with
  | none => []
  | some (_, path) =>
    let names := Text.pieces '/' (path.takeWhile (· != '?'))
    Text.trimBlank (names.getLast?.getD [])

/-- A text without its blank margin, unless nothing is left of it. -/
def nonblank? (text : String) : Option String :=
  let trimmed := Text.trim text
  if trimmed = "" then none else some trimmed

/-- Find the database and take blank margins away. -/
def validate (settings : Settings) : Except Fault ConnectionSettings :=
  let dsn := Text.trim settings.dsn
  if dsn = "" then
    .error .noConnectionString
  else
    let database := String.ofList (databaseOf dsn.toList)
    if database = "" then
      .error .noDatabase
    else
      .ok {
        dsn := dsn
        database := database
        persistKey :=
          if settings.persist then some (Text.trim settings.persistKey)
          else none
        replicaSet := settings.replicaSet.bind nonblank?
        querySafety :=
          (nonblank? settings.querySafety).getD WriteDefaults.usualSafetyKey }

example : databaseOf "mongodb://h1,h2/app?x=/y".toList = "app".toList := by
  decide +kernel
example : databaseOf "mongodb://h/db/".toList = [] := by decide +kernel

end Settings

end DocQuery
