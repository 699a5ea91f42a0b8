import DocQuery.Proofs.Text.Pieces
import DocQuery.Settings

/-!
# The database that a connection string names

A connection string consists of a scheme, a list of hosts, a database and
options.  Only the first two must be there: the database follows a slash and
the options follow a question mark.

The options are cut off behind the slash.  A database that is there is
therefore found whatever the options are.  If there is none, however, the first
slash of the options is taken for the one in front of the database, and what
follows it for the database.
-/

namespace DocQuery

/-- The parts of a connection string. -/
structure ConnectionString where
  scheme : List Char
  hosts : List Char
  database? : Option (List Char)
  options? : Option (List Char)
  /-- The scheme ends at the first mark. -/
  scheme_unmarked : ¬ "://".toList <:+: scheme
  hosts_unmarked : '/' ∉ hosts ∧ '?' ∉ hosts
  database_unmarked : ∀ name ∈ database?, '/' ∉ name ∧ '?' ∉ name

namespace ConnectionString

/-- What follows the hosts. -/
def tail (text : ConnectionString) : List Char :=
  (text.database?.elim [] ('/' :: ·)) ++ (text.options?.elim [] ('?' :: ·))

/-- A connection string as it is written down. -/
def dsn (text : ConnectionString) : String :=
  String.ofList (text.scheme ++ "://".toList ++ (text.hosts ++ text.tail))

end ConnectionString

namespace Settings

/-- The name behind the hosts, with its blank margin. -/
def nameBehind (rest : List Char) : List Char :=
  match Text.cut? '/' rest with
  | none => []
  | some (_, path) => (path.takeWhile (· != '?')).rtakeWhile (· != '/')

theorem databaseOf_eq (characters : List Char) :
    databaseOf characters =
      Text.trimBlank (nameBehind (withoutScheme characters)) := by
  unfold databaseOf nameBehind
  cases Text.cut? '/' (withoutScheme characters) with
  | none => rfl
  | some parts => simp only [Text.getLast?_pieces, Option.getD_some]

theorem nameBehind_append {first : List Char} (absent : '/' ∉ first)
    (rest : List Char) : nameBehind (first ++ rest) = nameBehind rest := by
  unfold nameBehind
  rw [Text.cut?_append, Text.cut?_eq_none absent]
  cases Text.cut? '/' rest <;> rfl

/-- A name that is there is found whatever the options are. -/
theorem nameBehind_name {name : List Char}
    (unmarked : '/' ∉ name ∧ '?' ∉ name) (options? : Option (List Char)) :
    nameBehind ('/' :: name ++ options?.elim [] ('?' :: ·)) = name := by
  have beforeOptions :
      (name ++ options?.elim [] ('?' :: ·)).takeWhile (· != '?') = name := by
    rw [List.takeWhile_append_of_pos]
    · cases options? <;> simp
    · rintro character member
      simpa using ne_of_mem_of_not_mem member unmarked.2
  have afterSlash : name.rtakeWhile (· != '/') = name := by
    rw [List.rtakeWhile_eq_self_iff]
    intro character member
    simpa using ne_of_mem_of_not_mem member unmarked.1
  show ((name ++ options?.elim [] ('?' :: ·)).takeWhile (· != '?')).rtakeWhile
    (· != '/') = name
  rw [beforeOptions, afterSlash]

/-- A blank behind the name belongs to its margin. -/
theorem trimBlank_nameBehind_concat (rest : List Char) {blank : Char}
    (isBlank : Text.isBlank blank = true) :
    Text.trimBlank (nameBehind (rest ++ [blank])) =
      Text.trimBlank (nameBehind rest) := by
  have notSlash : blank ≠ '/' := by
    rintro rfl
    exact absurd isBlank (by decide)
  have notMark : blank ≠ '?' := by
    rintro rfl
    exact absurd isBlank (by decide)
  unfold nameBehind
  rw [Text.cut?_append]
  cases Text.cut? '/' rest with
  | none => simp [Text.cut?, notSlash]
  | some parts =>
      rcases parts with ⟨before, path⟩
      dsimp only
      rw [List.takeWhile_append]
      split
      · next whole =>
          rw [(List.takeWhile_prefix _).eq_of_length whole,
            List.takeWhile_cons_of_pos (by simpa using notMark),
            List.takeWhile_nil,
            List.rtakeWhile_concat_pos _ _ _ (by simpa using notSlash),
            Text.trimBlank_concat _ isBlank]
      · rfl

/-- What comes of a name that was found. -/
def outcome (name : List Char) : Except Fault String :=
  if Text.trimBlank name = [] then .error .noDatabase
  else .ok (String.ofList (Text.trimBlank name))

@[simp]
theorem outcome_nil : outcome [] = .error .noDatabase := rfl

theorem outcome_eq_error_iff {name : List Char} :
    outcome name = .error .noDatabase ↔ Text.trimBlank name = [] := by
  simp [outcome]

theorem validate_map_database {settings : Settings}
    (given : Text.trimBlank settings.dsn.toList ≠ []) :
    settings.validate.map (·.database) =
      outcome (nameBehind (withoutScheme
        (Text.trimBlank settings.dsn.toList))) := by
  have dsnGiven : Text.trim settings.dsn ≠ "" := by
    rwa [Ne, ← String.toList_inj, Text.toList_trim]
  unfold validate outcome
  rw [if_neg dsnGiven, Text.toList_trim, databaseOf_eq]
  have unnamed (found : List Char) :
      String.ofList found = "" ↔ found = [] := by
    rw [← String.toList_inj, String.toList_ofList, String.toList_empty]
  simp only [unnamed]
  split <;> rfl

end Settings

namespace ConnectionString

open Settings

variable (text : ConnectionString)

/-- What is taken for the name of the database if there is none: the part of
the options between their first slash and their first question mark behind it,
from its last slash on. -/
def stray : List Char := nameBehind (text.options?.getD [])

theorem stray_eq_nil (unslashed : ∀ options ∈ text.options?, '/' ∉ options) :
    text.stray = [] := by
  have absent : '/' ∉ text.options?.getD [] := by
    cases found : text.options? with
    | none => exact List.not_mem_nil
    | some options => exact unslashed options found
  rw [stray, nameBehind, Text.cut?_eq_none absent]

theorem nameBehind_tail :
    nameBehind text.tail = text.database?.getD text.stray := by
  rcases text with ⟨-, -, database?, options?, -, -, unmarked⟩
  unfold tail stray
  cases database? with
  | some name => exact nameBehind_name (unmarked name rfl) options?
  | none =>
      cases options? with
      | none => rfl
      | some options =>
          show nameBehind (['?'] ++ options) = nameBehind options
          exact nameBehind_append (by decide) options

theorem trimBlank_dsn :
    ∃ scheme : List Char, ¬ "://".toList <:+: scheme ∧
      Text.trimBlank text.dsn.toList = scheme ++ "://".toList ++
        (text.hosts ++ text.tail).rdropWhile Text.isBlank := by
  refine ⟨text.scheme.dropWhile Text.isBlank, ?_, ?_⟩
  · intro inside
    exact text.scheme_unmarked
      (inside.trans (List.dropWhile_suffix _).isInfix)
  · have shape : text.dsn.toList = (text.scheme ++ ':' :: ['/']) ++
        '/' :: (text.hosts ++ text.tail) := by
      simp [dsn]
    rw [shape, Text.trimBlank_append_cons _ _ (by decide),
      Text.dropWhile_append_cons _ _ (by decide)]
    simp

/-- The name that is found behind the hosts. -/
theorem trimBlank_nameBehind_dsn :
    Text.trimBlank (nameBehind (withoutScheme
        (Text.trimBlank text.dsn.toList))) =
      Text.trimBlank (text.database?.getD text.stray) := by
  rcases text.trimBlank_dsn with ⟨scheme, unmarked, shape⟩
  have behind : withoutScheme (Text.trimBlank text.dsn.toList) =
      (text.hosts ++ text.tail).rdropWhile Text.isBlank := by
    rw [shape, withoutScheme, Text.cutText?_schemeMark unmarked]
  rw [behind, Text.rdropWhile_of_concat
    (fun rest => Text.trimBlank (nameBehind rest))
    (fun rest _ => trimBlank_nameBehind_concat rest),
    nameBehind_append text.hosts_unmarked.1, nameBehind_tail]

theorem trimBlank_dsn_ne_nil : Text.trimBlank text.dsn.toList ≠ [] := by
  rcases text.trimBlank_dsn with ⟨scheme, -, shape⟩
  simp [shape]

/-- What the validation answers for a connection string. -/
structure Reads (answer : Except Fault String) : Prop where
  /-- A database that is there is the one, whatever the options are. -/
  given : ∀ name, text.database? = some name → answer = outcome name
  /-- Without options that hold a slash, no other database is found. -/
  plain : (∀ options ∈ text.options?, '/' ∉ options) →
    answer = outcome (text.database?.getD [])
  /-- The database is missed only for a name in the options. -/
  right_iff : answer = outcome (text.database?.getD []) ↔
    (text.database? = none → Text.trimBlank text.stray = [])
  /-- That name is then taken for the database. -/
  missed : text.database? = none → answer = outcome text.stray

/-- Every connection string is found to name the database that follows its
hosts, except that without such a database one can be found in the options. -/
theorem reads_of_validate {settings : Settings}
    (written : settings.dsn = text.dsn) :
    text.Reads (settings.validate.map ConnectionSettings.database) := by
  have given : Text.trimBlank settings.dsn.toList ≠ [] := by
    rw [written]
    exact text.trimBlank_dsn_ne_nil
  have answer : settings.validate.map ConnectionSettings.database =
      outcome (text.database?.getD text.stray) := by
    rw [validate_map_database given, written, outcome,
      text.trimBlank_nameBehind_dsn]
    rfl
  refine ⟨?_, ?_, ?_, ?_⟩
  · intro name found
    rw [answer, found, Option.getD_some]
  · intro unslashed
    rw [answer, text.stray_eq_nil unslashed]
  · rw [answer]
    cases text.database? with
    | some name => simp
    | none => simp [outcome_eq_error_iff]
  · intro missing
    rw [answer, missing, Option.getD_none]

/-- A connection string without a database whose options hold a path. -/
def withPathInOptions : ConnectionString where
  scheme := "mongodb".toList
  hosts := ['h']
  database? := none
  options? := some "x=/y".toList
  scheme_unmarked := by decide
  hosts_unmarked := by decide
  database_unmarked := nofun

/-- The path in the options is taken for the database. -/
theorem reads_of_validate_path :
    ({ dsn := "mongodb://h?x=/y" } : Settings).dsn =
        withPathInOptions.dsn ∧
      ({ dsn := "mongodb://h?x=/y" } : Settings).validate.map
        ConnectionSettings.database = .ok "y" := by
  have written : ({ dsn := "mongodb://h?x=/y" } : Settings).dsn =
      withPathInOptions.dsn := by decide
  refine ⟨written, ?_⟩
  rw [(withPathInOptions.reads_of_validate written).missed rfl]
  decide

end ConnectionString

end DocQuery
