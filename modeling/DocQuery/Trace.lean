import DocQuery.Request
import DocQuery.Value.Text

/-!
# Traces

A sink captures trace lines while it is on.  Every line begins with the tag of
its producer, and the lines of one producer can be taken out while the others
stay.
-/

namespace DocQuery

/-- A sink for trace lines: the lines captured so far, or nothing while it is
off. -/
structure TraceSink where
  lines : Option (List String)
  deriving DecidableEq, Repr, Inhabited

namespace TraceSink

/-- The sink while it is off. -/
def off : TraceSink := ⟨none⟩

/-- The sink when it has just been switched on. -/
def on : TraceSink := ⟨some []⟩

/-- The lines captured so far. -/
def snapshot (sink : TraceSink) : List String := sink.lines.getD []

/-- Capture lines. -/
def write (sink : TraceSink) (lines : List String) : TraceSink :=
  ⟨sink.lines.map (· ++ lines)⟩

/-- Take all lines out. -/
def drain (sink : TraceSink) : List String × TraceSink :=
  (sink.snapshot, ⟨sink.lines.map fun _ => []⟩)

/-- A line begins with a tag. -/
def hasTag (tag line : String) : Bool := tag.toList.isPrefixOf line.toList

/-- Take the lines with a tag out. -/
def drainTagged (sink : TraceSink) (tag : String) : List String × TraceSink :=
  (sink.snapshot.filter (hasTag tag),
    ⟨sink.lines.map fun lines => lines.filter fun line => !hasTag tag line⟩)

@[simp]
theorem drainTagged_fst (sink : TraceSink) (tag : String) :
    (sink.drainTagged tag).1 = sink.snapshot.filter (hasTag tag) := rfl

@[simp]
theorem snapshot_drainTagged (sink : TraceSink) (tag : String) :
    (sink.drainTagged tag).2.snapshot =
      sink.snapshot.filter fun line => !hasTag tag line := by
  obtain ⟨_ | lines⟩ := sink <;> rfl

@[simp]
theorem snapshot_drain (sink : TraceSink) : sink.drain.2.snapshot = [] := by
  obtain ⟨_ | lines⟩ := sink <;> rfl

end TraceSink

namespace Trace

/-- The tag of the lines that query builders write. -/
def builderTag : String := "[qb]"

/-- The tag of the lines that the in-memory store writes. -/
def memoryTag : String := "[memory]"

/-- The line for a request that was answered. -/
def requestLine (log : QueryLog) : String :=
  let action := match log.action with
    | some action => action.name
    | none => "-"
  builderTag ++ " " ++ action ++ " on " ++ log.collection ++
    ": filter=" ++ log.filter.toText ++ " update=" ++ log.update.toText ++
    " sort=" ++ log.sort.toText ++
    " limit=" ++ String.ofList (Layout.integer log.limit) ++
    " offset=" ++ String.ofList (Layout.integer log.offset)

/-- The line for a document that was inserted. -/
def insertLine (collection : String) (id : Value) : String :=
  memoryTag ++ " insert into " ++ collection ++ ": " ++ id.toText

end Trace

end DocQuery
