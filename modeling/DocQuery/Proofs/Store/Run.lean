import DocQuery.Proofs.Store.Separation
import DocQuery.Store.Memory

/-!
# Runs of a store in memory

Which calls can be made of a store, which of them do away with indexes, and
the states that a sequence of calls leads to.  Calls come with well-formed
documents.  Between two calls the supply of identifiers may change, since
other stores draw from the same one.
-/

namespace DocQuery

open Store (Call)

namespace Store.Call

/-- All documents that come with a call. -/
def documents : Call → List Document
  | .find _ filter projection => [filter, projection]
  | .count _ filter _ _ => [filter]
  | .insert _ document options => [document, options]
  | .batchInsert _ documents options => options :: documents
  | .update _ filter change options => [filter, change, options]
  | .remove _ filter options => [filter, options]
  | .ensureIndex _ keys options => [keys, options]
  | .deleteIndex _ keys => [keys]
  | .deleteIndexes _ => []
  | .indexInfo _ => []
  | .dropCollection _ => []
  | .runCommand command => [command]

/-- No document of a call has one name twice. -/
def WellFormed (call : Call) : Prop := AllWellFormed call.documents

instance (call : Call) : Decidable call.WellFormed :=
  inferInstanceAs (Decidable (∀ document ∈ call.documents, _ = true))

/-- A call asks for an index over nothing. -/
def lacksKeys : Call → Bool
  | .ensureIndex _ keys _ => keys.isEmpty
  | _ => false

end Store.Call

/-- A command may do away with indexes of a collection. -/
def Command.discards (name : String) : Command → Bool
  | .drop collection => collection == name
  | .dropDatabase => true
  | _ => false

/-- A call may do away with indexes of a collection, with or without the
collection. -/
def Store.Call.discards (name : String) : Call → Bool
  | .deleteIndex collection _ => collection == name
  | .deleteIndexes collection => collection == name
  | .dropCollection collection => collection == name
  | .runCommand document =>
    match Command.ofDocument document with
    | .ok command => command.discards name
    | .error _ => false
  | _ => false

namespace MemoryStore

/-- The states that allowed calls lead to, whether they succeed or fail. -/
inductive Reaches (allowed : Call → Prop) (start : MemoryStore) :
    MemoryStore → Prop where
  | start : Reaches allowed start start
  | call {store : MemoryStore} (reached : Reaches allowed start store)
      (call : Call) (proper : call.WellFormed) (permitted : allowed call) :
      Reaches allowed start (store.answer call).state
  | restock {store : MemoryStore} (reached : Reaches allowed start store)
      (supply : ObjectId.Supply) :
      Reaches allowed start { store with supply := supply }

/-- The state after a list of calls. -/
def run (store : MemoryStore) (calls : List Call) : MemoryStore :=
  calls.foldl (fun current call => (current.answer call).state) store

/-- The states that any calls lead to from a new database. -/
inductive Reachable : MemoryStore → Prop where
  | of_reaches (database : String) (supply : ObjectId.Supply)
      {store : MemoryStore}
      (reaches : Reaches (fun _ => True) (empty database supply) store) :
      Reachable store

namespace Reaches

variable {allowed weaker : Call → Prop} {first second third : MemoryStore}

theorem trans (before : Reaches allowed first second)
    (after : Reaches allowed second third) : Reaches allowed first third := by
  induction after with
  | start => exact before
  | call _ call proper permitted ih =>
      exact Reaches.call ih call proper permitted
  | restock _ supply ih => exact Reaches.restock ih supply

theorem mono (implied : ∀ call, allowed call → weaker call)
    (reaches : Reaches allowed first second) :
    Reaches weaker first second := by
  induction reaches with
  | start => exact Reaches.start
  | call _ call proper permitted ih =>
      exact Reaches.call ih call proper (implied call permitted)
  | restock _ supply ih => exact Reaches.restock ih supply

theorem run (start : MemoryStore) {calls : List Call}
    (proper : ∀ call ∈ calls, call.WellFormed)
    (permitted : ∀ call ∈ calls, allowed call) :
    Reaches allowed start (start.run calls) := by
  induction calls generalizing start with
  | nil => exact Reaches.start
  | cons call rest ih =>
      have first : Reaches allowed start (start.answer call).state :=
        Reaches.call Reaches.start call (proper call (by simp))
          (permitted call (by simp))
      exact first.trans (ih (start.answer call).state
        (fun later member => proper later (by simp [member]))
        (fun later member => permitted later (by simp [member])))

end Reaches

namespace Reachable

variable {store later : MemoryStore}

theorem reaches {allowed : Call → Prop} (reachable : Reachable store)
    (onward : Reaches allowed store later) : Reachable later := by
  rcases reachable with ⟨database, supply, before⟩
  exact of_reaches database supply
    (before.trans (onward.mono fun _ _ => trivial))

theorem answer (reachable : Reachable store) (call : Call)
    (proper : call.WellFormed) : Reachable (store.answer call).state := by
  have onward : Reaches (fun _ => True) store (store.answer call).state :=
    Reaches.call Reaches.start call proper trivial
  exact reachable.reaches onward

theorem run_empty (database : String) (supply : ObjectId.Supply)
    {calls : List Call} (proper : ∀ call ∈ calls, call.WellFormed) :
    Reachable ((empty database supply).run calls) :=
  of_reaches database supply (Reaches.run _ proper fun _ _ => trivial)

end Reachable

end MemoryStore

end DocQuery
