import DocQuery.Cursor
import DocQuery.Store.Error

/-!
# Stores

A store answers calls.  Each kind of call has its kind of answer, and a store
is any machine that gives, for a state and a call, an answer or a failure, the
next state, and the trace lines it wrote meanwhile.
-/

namespace DocQuery

/-- How many documents an update concerned. -/
structure UpdateReport where
  /-- The documents that met the filter. -/
  matched : Nat
  /-- Those of them that are different now. -/
  modified : Nat
  deriving DecidableEq, Repr, Inhabited

namespace Store

/-- A call to a store. -/
inductive Call where
  | find (collection : String) (filter projection : Document)
  /-- Count matches after the first `skip`, at most `limit`; zero for no
  bound. -/
  | count (collection : String) (filter : Document) (limit skip : Nat)
  | insert (collection : String) (document options : Document)
  | batchInsert (collection : String) (documents : List Document)
      (options : Document)
  | update (collection : String) (filter update options : Document)
  | remove (collection : String) (filter options : Document)
  | ensureIndex (collection : String) (keys options : Document)
  | deleteIndex (collection : String) (keys : Document)
  | deleteIndexes (collection : String)
  | indexInfo (collection : String)
  | dropCollection (collection : String)
  | runCommand (command : Document)
  deriving Inhabited

/-- What a call is answered with when it does not fail. -/
def Call.Answer : Call → Type
  | .find .. => Cursor
  | .count .. => Nat
  /- The `_id` of the document, or nothing if none was stored. -/
  | .insert .. => Option Value
  | .batchInsert .. => Document
  | .update .. => UpdateReport
  | .remove .. => Bool
  | .ensureIndex .. => Bool
  | .deleteIndex .. => Bool
  | .deleteIndexes .. => Unit
  | .indexInfo .. => List Document
  | .dropCollection .. => Bool
  | .runCommand .. => Document

/-- What comes of a call. -/
structure Reply (State Answer : Type) where
  /-- The answer, or why there is none. -/
  result : Except StoreError Answer
  /-- The state of the store afterwards. -/
  state : State
  /-- The trace lines that were written. -/
  lines : List String := []

end Store

/-- A store, by how it answers a call in a state. -/
structure Store (State : Type) where
  answer : State → (call : Store.Call) → Store.Reply State call.Answer

namespace Store

variable {State : Type}

/-- A store that notes every call before it is passed on. -/
def recording (store : Store State) : Store (State × List Call) where
  answer state call :=
    let reply := store.answer state.1 call
    ⟨reply.result, (reply.state, state.2 ++ [call]), reply.lines⟩

/-- A store that cannot be reached. -/
def unreachable (reason : String) : Store Unit where
  answer _ _ := ⟨.error (.connection reason), (), []⟩

/-- A store that takes a document without storing it and declines removals
and changes of indexes; for everything else it cannot be reached. -/
def declining (reason : String) : Store Unit where
  answer _
    | .insert .. => ⟨.ok none, (), []⟩
    | .remove .. | .ensureIndex .. | .deleteIndex .. | .dropCollection .. =>
      ⟨.ok false, (), []⟩
    | _ => ⟨.error (.connection reason), (), []⟩

@[simp]
theorem recording_calls (store : Store State) (state : State × List Call)
    (call : Call) :
    (store.recording.answer state call).state.2 = state.2 ++ [call] := rfl

@[simp]
theorem recording_result (store : Store State) (state : State × List Call)
    (call : Call) :
    (store.recording.answer state call).result =
      (store.answer state.1 call).result := rfl

end Store

end DocQuery
