import DocQuery.Proofs.Document.NameOrder
import DocQuery.Proofs.Json.Simple
import DocQuery.Proofs.Store.Selection

/-!
# What an answer says of its command

A command with simple values only is told by its first entry: it has no filter,
and nothing else behind the first entry is read.  Every command answers with a
field of its own, or with an error that says its name, so that the answer tells
the name in turn.
-/

namespace DocQuery

namespace Command

variable {command : Document} {entry : String × Value} {rest : Document}

/-- The name of a command. -/
def name : Command → String
  | .ping => "ping"
  | .count _ _ => "count"
  | .drop _ => "drop"
  | .listCollections => "listCollections"
  | .dropDatabase => "dropDatabase"

/-- The name of the command whose answer begins with a field. -/
def ofField : String → Option String
  | "ok" => some "ping"
  | "n" => some "count"
  | "ns" => some "drop"
  | "cursor" => some "listCollections"
  | "dropped" => some "dropDatabase"
  | _ => none

/-- The name that a failure says. -/
def ofFailure : CommandFailure → Option String
  | .collectionNotNamed name | .unknownCommand name => some name
  | .collectionNotFound _ => some "drop"
  | .noCommand | .other _ => none

/-- The name of a command, as its result tells it. -/
def toldBy : Except StoreError Document → Option String
  | .ok answer => answer.keys.head?.bind ofField
  | .error (.command failure) => ofFailure failure
  | .error _ => none

theorem collectionOf_eq (command : String) (operand : Value) :
    (∃ collection, collectionOf command operand = .ok collection) ∨
      collectionOf command operand = .error (.collectionNotNamed command) := by
  unfold collectionOf
  split
  · exact .inl ⟨_, rfl⟩
  · exact .inr rfl

/-- What a document with a first entry expresses is named by this entry, and
so is the failure if it expresses nothing. -/
theorem ofDocument_cons (entry : String × Value) (rest : Document) :
    (∃ expressed : Command, ofDocument (entry :: rest) = .ok expressed ∧
      expressed.name = entry.1 ∧ ∀ collection filter,
        expressed = .count collection filter →
          filter = filterOf (entry :: rest)) ∨
    ∃ failure, ofDocument (entry :: rest) = .error failure ∧
      ofFailure failure = some entry.1 := by
  rcases entry with ⟨name, operand⟩
  -- One case for each command, and one for all other names.
  rw [ofDocument.eq_def]
  split
  · next contra => cases contra
  · next name operand _ whole =>
    rcases List.cons.inj whole with ⟨first, _⟩
    cases first
    split
    · exact .inl ⟨_, rfl, rfl, nofun⟩
    · rcases collectionOf_eq "count" operand with ⟨collection, read⟩ | read
      · rw [read]
        exact .inl ⟨_, rfl, rfl, fun _ _ same => by cases same; rfl⟩
      · rw [read]
        exact .inr ⟨_, rfl, rfl⟩
    · rcases collectionOf_eq "drop" operand with ⟨collection, read⟩ | read
      · rw [read]
        exact .inl ⟨_, rfl, rfl, nofun⟩
      · rw [read]
        exact .inr ⟨_, rfl, rfl⟩
    · exact .inl ⟨_, rfl, rfl, nofun⟩
    · exact .inl ⟨_, rfl, rfl, nofun⟩
    · exact .inr ⟨_, rfl, rfl⟩

/-- A command without documents has no filter. -/
theorem filterOf_of_simple (simple : command.Simple) :
    filterOf command = [] := by
  rw [filterOf]
  split
  · next filter found =>
      cases simple _ (Document.mem_of_get? found)
  · rfl

theorem ofDocument_of_simple (simple : Document.Simple (entry :: rest)) :
    ofDocument (entry :: rest) = ofDocument [entry] := by
  have alone : Document.Simple [entry] := fun other member =>
    simple other (List.mem_singleton.mp member ▸ List.mem_cons_self)
  simp only [ofDocument, filterOf_of_simple simple, filterOf_of_simple alone]

end Command

namespace MemoryStore

variable {command : Document} {entry : String × Value} {rest : Document}

theorem runCommand_of_simple (simple : Document.Simple (entry :: rest))
    (store : MemoryStore) :
    store.runCommand (entry :: rest) = store.runCommand [entry] := by
  rw [runCommand, runCommand, Command.ofDocument_of_simple simple]

theorem select_nil (store : MemoryStore) (name : String) :
    store.select name [] = .ok (store.documents name) := by
  rw [select_eq_find, documents_eq_target,
    Collection.find_of_meets fun document _ => document.meets_nil]
  simp

/-- A command without a filter answers with a field or a failure of its own. -/
theorem toldBy_perform {expressed : Command} (unfiltered : ∀ collection filter,
      expressed = .count collection filter → filter = [])
    (store : MemoryStore) :
    Command.toldBy (store.perform expressed).1 = some expressed.name := by
  cases expressed with
  | count collection filter =>
      rw [unfiltered collection filter rfl, perform, select_nil]
      rfl
  | drop collection =>
      rw [perform]
      split <;> rfl
  | ping | listCollections | dropDatabase => rfl

/-- The result of a command with simple values tells its first name. -/
theorem toldBy_runCommand (simple : command.Simple) (store : MemoryStore) :
    Command.toldBy (store.runCommand command).result =
      command.keys.head? := by
  cases command with
  | nil => rfl
  | cons entry rest =>
      rw [runCommand]
      rcases Command.ofDocument_cons entry rest with
        ⟨expressed, read, named, filtered⟩ | ⟨failure, refused, named⟩
      · rw [read]
        refine (toldBy_perform (fun collection filter same => ?_) store).trans
          (congrArg some named)
        rw [filtered collection filter same,
          Command.filterOf_of_simple simple]
      · rw [refused]
        exact named

/-- Two commands with the same simple entries do the same if they begin with
the same name. -/
theorem runCommand_eq_of_keys {other : Document} (simple : command.Simple)
    (distinct : command.Distinct) (perm : other.Perm command)
    (same : other.keys.head? = command.keys.head?) (store : MemoryStore) :
    store.runCommand other = store.runCommand command := by
  cases command with
  | nil => rw [perm.eq_nil]
  | cons entry rest =>
      cases other with
      | nil => cases same
      | cons first others =>
          have equal : first = entry := Document.eq_of_mem_of_distinct distinct
            (perm.subset List.mem_cons_self) List.mem_cons_self
            (Option.some.inj same)
          have simpleOther : Document.Simple (first :: others) :=
            fun member inside => simple member (perm.subset inside)
          rw [runCommand_of_simple simple, runCommand_of_simple simpleOther,
            equal]

/-- Commands with simple values that begin with different names have different
results. -/
theorem result_runCommand_ne {other : Document} (simple : command.Simple)
    (simpleOther : other.Simple)
    (different : other.keys.head? ≠ command.keys.head?) (store : MemoryStore) :
    (store.runCommand other).result ≠ (store.runCommand command).result := by
  intro same
  have told := congrArg Command.toldBy same
  rw [toldBy_runCommand simple, toldBy_runCommand simpleOther] at told
  exact different told

end MemoryStore

end DocQuery
