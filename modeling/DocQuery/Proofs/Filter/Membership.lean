import DocQuery.Proofs.Filter.Evaluation

/-!
# Membership in lists of operands

To be in a list is to equal one of its members, to be outside is to differ
from each, and to have all is to equal each.  Of a list operand the members up
to the greatest count that is looked at have a say; those behind it are as good
as absent, so that a long list can let pass what equality would refuse.
-/

namespace DocQuery

namespace Filter

/-- The filter that asks one operator of the value at a path. -/
def asking (path operator : String) (operand : Value) : Document :=
  [(path, .document [(operator, operand)])]

variable {document : Document} {path operator : String} {operand : Value}

/-- An operator on a field is asked of the value at the field's path. -/
theorem meets_asking (field : isOperatorName path = false)
    (named : isOperatorName operator = true) :
    document.meets (asking path operator operand) =
      meetsOperator (document.getPath? path) [(operator, operand)] operator
        operand := by
  have form : operators? (.document [(operator, operand)]) =
      some [(operator, operand)] := by
    rw [operators?, if_pos named]
  rw [asking, meets_singleton, matchesEntry_of_field document field]
  simp only [meetsCondition, form, meetsOperators, meetsEach]
  rcases meetsOperator (document.getPath? path) [(operator, operand)] operator
    operand with failure | _ | _ <;> rfl

/-- What stands under a name that denotes an operator is no field. -/
theorem exists_failure_of_asking (unfit : isOperatorName path = true)
    (operator : String) (operand : Value) :
    ∃ failure,
      document.meets (asking path operator operand) = .error failure := by
  rw [asking, meets_singleton]
  simp only [matchesEntry, unfit, if_true]
  split <;> exact ⟨_, rfl⟩

section

variable (field : isOperatorName path = false)

include field

theorem meets_asking_eq (member : Value) :
    document.meets (asking path "$eq" member) =
      .ok (agrees (document.getPath? path) member) := by
  rw [meets_asking field (by decide)]
  rfl

theorem meets_asking_ne (member : Value) :
    document.meets (asking path "$ne" member) =
      .ok !(agrees (document.getPath? path) member) := by
  rw [meets_asking field (by decide)]
  rfl

theorem meets_asking_in (members : List Value) :
    document.meets (asking path "$in" (.array members)) =
      .ok (isAmong (document.getPath? path) members) := by
  rw [meets_asking field (by decide)]
  rfl

theorem meets_asking_nin (members : List Value) :
    document.meets (asking path "$nin" (.array members)) =
      .ok !(isAmong (document.getPath? path) members) := by
  rw [meets_asking field (by decide)]
  rfl

theorem meets_asking_all (members : List Value) :
    document.meets (asking path "$all" (.array members)) =
      .ok (hasAll (document.getPath? path) members) := by
  rw [meets_asking field (by decide)]
  rfl

end

/-- Of a list that has members, some are looked at. -/
theorem exists_listed {members : List Value} (filled : members ≠ []) :
    ¬ ∀ member ∈ members.take maxListed, False := by
  cases members with
  | nil => exact absurd rfl filled
  | cons first rest =>
    intro nothing
    exact nothing first (by simp [maxListed])

/-- The operators on lists answer for every field, and they say of the members
that are looked at what equality and difference say of each. -/
theorem membership_of_listed (document : Document) (path : String)
    (members : List Value) :
    (isOperatorName path = false → ∀ operator ∈ ["$in", "$nin", "$all"],
      ∃ hit,
        document.meets (asking path operator (.array members)) = .ok hit) ∧
      (document.meets (asking path "$in" (.array members)) = .ok true ↔
        ∃ member ∈ members.take maxListed,
          document.meets (asking path "$eq" member) = .ok true) ∧
      (isOperatorName path = false ∨ members ≠ [] →
        (document.meets (asking path "$nin" (.array members)) = .ok true ↔
          ∀ member ∈ members.take maxListed,
            document.meets (asking path "$ne" member) = .ok true)) ∧
      (members ≠ [] →
        (document.meets (asking path "$all" (.array members)) = .ok true ↔
          ∀ member ∈ members.take maxListed,
            document.meets (asking path "$eq" member) = .ok true)) := by
  cases unfit : isOperatorName path with
  | true =>
    have refused (operator : String) (operand : Value) :
        document.meets (asking path operator operand) ≠ .ok true := by
      rcases exists_failure_of_asking unfit operator operand with
        ⟨failure, failed⟩
      rw [failed]
      exact nofun
    refine ⟨nofun, ?_, ?_, ?_⟩
    · simp [refused]
    · rintro (impossible | filled)
      · cases impossible
      · simp only [refused, false_iff]
        exact exists_listed filled
    · intro filled
      simp only [refused, false_iff]
      exact exists_listed filled
  | false =>
    simp only [meets_asking_in unfit, meets_asking_nin unfit,
      meets_asking_all unfit, meets_asking_eq unfit, meets_asking_ne unfit]
    refine ⟨?_, ?_, ?_, ?_⟩
    · simp [meets_asking_in unfit, meets_asking_nin unfit,
        meets_asking_all unfit]
    · simp [isAmong]
    · simp [isAmong]
    · intro filled
      simp [hasAll, filled]

/-- Two of three tags are in one list, and none of them is in the other. -/
theorem membership_of_listed_tags :
    let document : Document :=
      [("tags", .array [.string "a", .string "b", .string "c"])]
    document.meets
        (asking "tags" "$all" (.array [.string "a", .string "c"])) = .ok true ∧
      document.meets
        (asking "tags" "$nin" (.array [.string "x", .null])) = .ok true := by
  intro document
  constructor
  · have all := (membership_of_listed document "tags"
      [.string "a", .string "c"]).2.2.2 (by decide)
    exact all.mpr (by decide +kernel)
  · have outside := (membership_of_listed document "tags"
      [.string "x", .null]).2.2.1 (Or.inl (by decide))
    exact outside.mpr (by decide +kernel)

/-- A list with one member more than are looked at. -/
def crowded : List Value :=
  List.replicate maxListed (.ofInt 0) ++ [.ofInt 1]

theorem take_crowded :
    crowded.take maxListed = List.replicate maxListed (.ofInt 0) :=
  List.take_left' List.length_replicate

/-- Behind the members that are looked at there may be one that a value equals:
it is not found, not kept out, and not asked for. -/
theorem membership_not_of_crowded :
    ¬ (Document.meets [("a", .ofInt 1)]
          (asking "a" "$in" (.array crowded)) = .ok true ↔
        ∃ member ∈ crowded, Document.meets [("a", .ofInt 1)]
          (asking "a" "$eq" member) = .ok true) ∧
      ¬ (Document.meets [("a", .ofInt 1)]
          (asking "a" "$nin" (.array crowded)) = .ok true ↔
        ∀ member ∈ crowded, Document.meets [("a", .ofInt 1)]
          (asking "a" "$ne" member) = .ok true) ∧
      ¬ (Document.meets [("a", .ofInt 0)]
          (asking "a" "$all" (.array crowded)) = .ok true ↔
        ∀ member ∈ crowded, Document.meets [("a", .ofInt 0)]
          (asking "a" "$eq" member) = .ok true) := by
  have field : isOperatorName "a" = false := by decide
  have single (value : Value) :
      Document.getPath? [("a", value)] "a" = some value := by
    have readable : isReadablePath "a" = true := by decide +kernel
    have names : pathNames "a" = ["a"] := by decide +kernel
    simp [Document.getPath?, readable, names, Document.follow?, Document.get?]
  have apart : agrees (some (.ofInt 1)) (.ofInt 0) = false ∧
      agrees (some (.ofInt 0)) (.ofInt 1) = false := by decide +kernel
  have alike : agrees (some (.ofInt 1)) (.ofInt 1) = true ∧
      agrees (some (.ofInt 0)) (.ofInt 0) = true := by decide +kernel
  simp only [meets_asking_in field, meets_asking_nin field,
    meets_asking_all field, meets_asking_eq field, meets_asking_ne field,
    single, isAmong, hasAll, take_crowded]
  simp [crowded, apart, alike]

end Filter

end DocQuery
