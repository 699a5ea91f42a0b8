/-!
# Log plans

Which log files are kept and which messages go into which of them.  Requests
and developer traces have files of their own; everything else goes to the file
of the application.
-/

namespace DocQuery

/-- How much is logged. -/
inductive LogLevel where
  | off
  | error
  | warn
  | info
  | debug
  | trace
  deriving DecidableEq, Repr, Inhabited

namespace LogLevel

/-- The name of a level in a plan. -/
def name : LogLevel → String
  | .off => "OFF"
  | .error => "ERROR"
  | .warn => "WARN"
  | .info => "INFO"
  | .debug => "DEBUG"
  | .trace => "TRACE"

/-- The level that a word in any case asks for; any other word, or none, asks
for `info`. -/
def ofWord (word : Option String) : LogLevel :=
  match word.map fun word => String.ofList (word.toList.map Char.toLower) with
  | some "error" => .error
  | some "warn" => .warn
  | some "debug" => .debug
  | some "trace" => .trace
  | some "off" => .off
  | _ => .info

end LogLevel

/-- What becomes of the messages of one origin. -/
structure Logger where
  /-- The origin of the messages. -/
  target : String
  level : LogLevel
  /-- The messages go to the root as well. -/
  additive : Bool
  /-- The appenders that write the messages. -/
  appenders : List String
  deriving DecidableEq, Repr, Inhabited

/-- What is logged, and where. -/
structure LogPlan where
  /-- The appenders, each of which writes a file. -/
  appenders : List String
  /-- The level of messages of any other origin. -/
  rootLevel : LogLevel
  /-- The appenders for messages of any other origin. -/
  rootAppenders : List String
  loggers : List Logger
  deriving DecidableEq, Repr, Inhabited

namespace LogPlan

/-- The logger of requests. -/
def requests (level : LogLevel) : Logger :=
  ⟨"nexusqb::query", level, false, ["query"]⟩

/-- The logger of developer traces, which are kept only on demand. -/
def developerTraces (kept : Bool) : Logger :=
  if kept then ⟨"nexusqb::dev6", .trace, false, ["dev6"]⟩
  else ⟨"nexusqb::dev6", .off, false, []⟩

/-- The plan for a level. -/
def forLevel (level : LogLevel) (developer : Bool) : LogPlan :=
  { appenders := ["app", "query"] ++ if developer then ["dev6"] else []
    rootLevel := level
    rootAppenders := ["app"]
    loggers := [requests level, developerTraces developer] }

/-- The names of the files, sorted. -/
def files (plan : LogPlan) : List String :=
  (plan.appenders.map (· ++ ".log")).mergeSort

end LogPlan

end DocQuery
