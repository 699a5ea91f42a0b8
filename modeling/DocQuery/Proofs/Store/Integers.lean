import DocQuery.Proofs.Filter.Evaluation
import DocQuery.Proofs.Number.Rounding
import DocQuery.Proofs.Store.Idle
import DocQuery.Proofs.Update.Arrays

/-!
# Integers that count as equal

Integers of either width are compared through the double-precision numbers
nearest to them, and so in the order of the nearest integers that 53 bits can
hold.  That order never turns integers around, and up to `2 ^ 53` it is their
own; beyond, different integers may count as equal.  Literals of filters, sets
and unique indexes all go by it.
-/

namespace DocQuery

open Binary64 (nearestInt nearestInt_of_natAbs_le spacing)

/-! ## Integers as values -/

namespace Value

variable {value left right : Value} {number first second : Int}

theorem numberOrNaN_of_integer? (integer : value.integer? = some number) :
    value.isNumber = true ∧ value.numberOrNaN = .ofInt number ∧
      number.natAbs.log2 ≤ 1023 := by
  have bounded (least : -0x8000000000000000 ≤ number)
      (greatest : number < 0x8000000000000000) :
      number.natAbs.log2 ≤ 1023 := by
    by_cases zero : number.natAbs = 0
    · rw [zero]
      decide
    · have within : number.natAbs < 2 ^ 64 := by omega
      have places : number.natAbs.log2 < 64 := (Nat.log2_lt zero).mpr within
      omega
  cases value with
  | int32 held =>
    rcases Option.some.inj integer with rfl
    have least := held.le_toInt
    have greatest := held.toInt_lt
    exact ⟨rfl, rfl, bounded (by omega) (by omega)⟩
  | int64 held =>
    rcases Option.some.inj integer with rfl
    exact ⟨rfl, rfl, bounded held.le_toInt held.toInt_lt⟩
  | _ => cases integer

/-- Integers of either width compare like the nearest integers. -/
theorem compare_of_integer? (leftInteger : left.integer? = some first)
    (rightInteger : right.integer? = some second) :
    left.compare right =
      Ord.compare (nearestInt first) (nearestInt second) := by
  rcases numberOrNaN_of_integer? leftInteger with
    ⟨leftNumber, leftNearest, leftBounded⟩
  rcases numberOrNaN_of_integer? rightInteger with
    ⟨rightNumber, rightNearest, rightBounded⟩
  simp only [compare, compareNumbers, leftNumber, rightNumber, leftNearest,
    rightNearest, Bool.and_self, if_true]
  exact Binary64.totalCompare_ofInt leftBounded rightBounded

theorem agrees_of_integer? (leftInteger : left.integer? = some first)
    (rightInteger : right.integer? = some second) :
    left.agrees right = (nearestInt first == nearestInt second) := by
  have leftNumber := (numberOrNaN_of_integer? leftInteger).1
  have rightNumber := (numberOrNaN_of_integer? rightInteger).1
  rw [Bool.eq_iff_iff, agrees, compare_of_integer? leftInteger rightInteger]
  simp [leftNumber, rightNumber]

/-- An integer agrees with an operand that is one, and contains none. -/
theorem agreesOrContains_of_integer? (leftInteger : left.integer? = some first)
    (rightInteger : right.integer? = some second) :
    left.agreesOrContains right = (nearestInt first == nearestInt second) := by
  unfold agreesOrContains
  rw [agrees_of_integer? leftInteger rightInteger]
  cases left with
  | array => cases leftInteger
  | _ => exact Bool.or_false _

end Value

/-! ## Where integers are told apart -/

namespace Update

variable {items : List Value} {numbers : List Int} {operand : Value}
  {number : Int}

/-- Among integers one is missing if none of them rounds to the same. -/
theorem addMissing_of_integer? (integer : operand.integer? = some number)
    (given : items.map Value.integer? = numbers.map some) :
    addMissing items [operand] =
      if nearestInt number ∈ numbers.map nearestInt then items
      else items ++ [operand] := by
  have present : (items.any fun known => known.agrees operand) =
      decide (nearestInt number ∈ numbers.map nearestInt) := by
    induction items generalizing numbers with
    | nil =>
      cases numbers with
      | nil => rfl
      | cons => cases given
    | cons item rest ih =>
      cases numbers with
      | nil => cases given
      | cons known others =>
        rcases List.cons.inj given with ⟨here, further⟩
        rw [List.any_cons, ih further, Value.agrees_of_integer? here integer,
          Bool.eq_iff_iff]
        simp only [Bool.or_eq_true, beq_iff_eq, decide_eq_true_eq,
          List.map_cons, List.mem_cons, @eq_comm _ (nearestInt number)]
  simp only [addMissing, List.foldl_cons, List.foldl_nil, present,
    decide_eq_true_eq]

/-- Added to an array of integers, an integer is appended if it is missing
there. -/
theorem exists_addToSet_of_integer? (integer : operand.integer? = some number)
    {document : Document} {path : String}
    (found : document.getPath? path = some (.array items))
    (given : items.map Value.integer? = numbers.map some) :
    ∃ outcome, apply document (single .addToSet path operand) = .ok outcome ∧
      outcome.document.getPath? path = some (.array
        (if nearestInt number ∈ numbers.map nearestInt then items
        else items ++ [operand])) := by
  have readable : isReadablePath path = true := by
    by_contra unreadable
    rw [Document.getPath?, if_neg unreadable] at found
    cases found
  have alone : itemsOf operand = [operand] := by
    cases operand <;> first | rfl | cases integer
  have changed : addToSetField document path operand =
      .ok (document.setPath path (.array
        (if nearestInt number ∈ numbers.map nearestInt then items
        else items ++ [operand]))) := by
    rw [addToSetField, arrayAt_of_holds (.inl found), alone,
      ← addMissing_of_integer? integer given]
    rfl
  have known : UpdateOperator.addToSet.change? = some addToSetField := rfl
  rcases exists_of_change known changed with ⟨outcome, applied, after⟩
  refine ⟨outcome, applied, ?_⟩
  rw [after, Document.getPath?_setPath_self readable]

end Update

namespace Index

variable {index : Index} {path : String} {direction left right : Value}
  {first second : Int} {stored other : Document}

/-- An index over one path tells documents with integers there apart if they
round to different ones. -/
theorem sameKey_of_integer? (keyed : index.key = [(path, direction)])
    (leftInteger : left.integer? = some first)
    (rightInteger : right.integer? = some second)
    (storedAt : stored.getPath? path = some left)
    (otherAt : other.getPath? path = some right) :
    index.sameKey stored other =
      (nearestInt first == nearestInt second) := by
  rw [Bool.eq_iff_iff, sameKey_iff,
    ← Value.agrees_of_integer? leftInteger rightInteger]
  simp [AgreeOn, keyed, Document.valueAt, storedAt, otherAt]

end Index

namespace MemoryStore

/-- A document is stored if the indexes allow it beside the others. -/
theorem exists_insert_iff (store : MemoryStore) (name : String)
    (given : Document) :
    (∃ id, (store.insert name given).result = .ok id) ↔
      Index.checkAll (store.target name).indexes (store.target name).documents
        (Identified.ofDocument store.supply given).1.document = .ok () := by
  rw [(insert_eq_write store name given).1, result_write, Collection.insert]
  generalize Index.checkAll (store.target name).indexes
    (store.target name).documents
    (Identified.ofDocument store.supply given).1.document = checked
  cases checked <;> simp [bind, Except.bind, Except.map, pure, Except.pure]

/-- An index is granted if its name is in use, or if it keeps the documents
apart in case it is unique. -/
theorem exists_ensureIndex_iff (store : MemoryStore) (name : String)
    {keys : Document} (keyed : keys.isEmpty = false) (options : Document) :
    (∃ added, (store.ensureIndex name keys options).result = .ok added) ↔
      (store.target name).hasIndex (requestedIndex keys options).name = true ∨
        (isSet options "unique" = true →
          (requestedIndex keys options).separates
            (store.target name).documents = true) := by
  have written := result_write store store.supply name fun collection => do
    let next ← collection.addIndex (requestedIndex keys options)
    return (next, true)
  have requested : (requestedIndex keys options).unique =
      isSet options "unique" := rfl
  simp only [ensureIndex, keyed, Bool.false_eq_true, if_false]
  rw [written, Collection.addIndex, requested]
  cases (store.target name).hasIndex (requestedIndex keys options).name with
  | true => simp [bind, Except.bind, Except.map, pure, Except.pure]
  | false =>
    cases isSet options "unique" <;>
      cases (requestedIndex keys options).separates
        (store.target name).documents <;>
      simp [bind, Except.bind, Except.map, pure, Except.pure]

end MemoryStore

/-! ## The order that is seen -/

/-- What is made of two integers wherever they are compared. -/
structure IntegerLaws (left right : Value) (first second : Int) : Prop where
  /-- They stand in the order of the nearest integers. -/
  compared : left.compare right =
    Ord.compare (nearestInt first) (nearestInt second)
  /-- The nearest integer is a multiple of the distance between numbers of 53
  bits, at most half of it away. -/
  rounded : (spacing first.natAbs : Int) ∣ nearestInt first ∧
    2 * (first - nearestInt first).natAbs ≤ spacing first.natAbs
  /-- This is their own order unless they differ and round to the same. -/
  exact_iff : left.compare right = Ord.compare first second ↔
    first = second ∨ nearestInt first ≠ nearestInt second
  /-- It is their own order up to `2 ^ 53`. -/
  exact_of_small : first.natAbs ≤ 0x20000000000000 →
    second.natAbs ≤ 0x20000000000000 →
      left.compare right = Ord.compare first second
  /-- A document with the one meets a filter for the other if they round to the
  same. -/
  matched : ∀ (document : Document) path, isOperatorName path = false →
    document.getPath? path = some left →
      document.meets [(path, right)] =
        .ok (nearestInt first == nearestInt second)
  /-- Added to a set of integers, an integer is appended if none of them rounds
  to the same. -/
  added : ∀ (document : Document) path items (numbers : List Int),
    document.getPath? path = some (.array items) →
      items.map Value.integer? = numbers.map some →
        ∃ outcome,
          Update.apply document (Update.single .addToSet path right) =
            .ok outcome ∧
          outcome.document.getPath? path = some (.array
            (if nearestInt second ∈ numbers.map nearestInt then items
            else items ++ [right]))
  /-- A unique index lets a document with the one in beside a document with the
  other if they do not round to the same. -/
  inserted : ∀ (store : MemoryStore) name index path direction stored given,
    store.get? name = some ⟨[stored], [.identity, index]⟩ →
      index.unique = true → index.key = [(path, direction)] →
      stored.getPath? path = some left →
      (Identified.ofDocument store.supply given).1.document.getPath? path =
        some right →
      Index.identity.sameKey stored
        (Identified.ofDocument store.supply given).1.document = false →
        ((∃ id, (store.insert name given).result = .ok id) ↔
          nearestInt first ≠ nearestInt second)
  /-- A unique index is granted over two such documents if the integers do not
  round to the same. -/
  indexed : ∀ (store : MemoryStore) name path direction options stored other,
    store.get? name = some ⟨[stored, other], [.identity]⟩ →
      MemoryStore.isSet options "unique" = true →
      (MemoryStore.requestedIndex [(path, direction)] options).name ≠
        Index.identityName →
      stored.getPath? path = some left → other.getPath? path = some right →
        ((∃ added, (store.ensureIndex name [(path, direction)] options).result =
            .ok added) ↔
          nearestInt first ≠ nearestInt second)

/-- Integers of either width are compared as the nearest integers that 53 bits
can hold, by the sort, by literals, by sets and by unique indexes. -/
theorem integerLaws_of_integers {left right : Value} {first second : Int}
    (leftInteger : left.integer? = some first)
    (rightInteger : right.integer? = some second) :
    IntegerLaws left right first second := by
  have compared := Value.compare_of_integer? leftInteger rightInteger
  constructor
  case compared => exact compared
  case rounded => exact Binary64.nearestInt_near first
  case exact_iff =>
    rw [compared]
    exact Binary64.compare_nearestInt_iff first second
  case exact_of_small =>
    intro firstSmall secondSmall
    rw [compared, nearestInt_of_natAbs_le firstSmall,
      nearestInt_of_natAbs_le secondSmall]
  case matched =>
    intro document path field found
    have literal : Filter.isLiteral (path, right) = true := by
      have plain : Filter.operators? right = none := by
        cases right <;> first | rfl | cases rightInteger
      simp [Filter.isLiteral, field, plain]
    rw [Filter.meets_singleton, Filter.matchesEntry_of_isLiteral literal,
      found]
    exact congrArg Except.ok
      (Value.agreesOrContains_of_integer? leftInteger rightInteger)
  case added =>
    intro document path items numbers found given
    exact Update.exists_addToSet_of_integer? rightInteger found given
  case inserted =>
    intro store name index path direction stored given found unique keyed
      storedAt givenAt apart
    have target : store.target name = ⟨[stored], [.identity, index]⟩ := by
      rw [MemoryStore.target, found]
      rfl
    have same := Index.sameKey_of_integer? keyed leftInteger rightInteger
      storedAt givenAt
    rw [MemoryStore.exists_insert_iff, target, Index.checkAll_eq_ok_iff]
    simp [unique, apart, same]
  case indexed =>
    intro store name path direction options stored other found unique named
      storedAt otherAt
    have target : store.target name = ⟨[stored, other], [.identity]⟩ := by
      rw [MemoryStore.target, found]
      rfl
    have fresh : Collection.hasIndex ⟨[stored, other], [.identity]⟩
        (MemoryStore.requestedIndex [(path, direction)] options).name =
          false := by
      simpa [Collection.hasIndex, Index.identity] using named.symm
    have same : (MemoryStore.requestedIndex [(path, direction)]
        options).sameKey stored other =
          (nearestInt first == nearestInt second) :=
      Index.sameKey_of_integer? rfl leftInteger rightInteger storedAt otherAt
    rw [MemoryStore.exists_ensureIndex_iff _ _ rfl, target, fresh]
    simp [unique, Index.separates, same]

/-- Two neighbours above `2 ^ 53` count as equal everywhere: a unique index
refuses the one beside the other. -/
theorem integerLaws_of_integers_neighbours :
    let above : Value := .int64 0x20000000000001
    let limit : Value := .int64 0x20000000000000
    let store : MemoryStore :=
      ⟨"sample",
        [("c", ⟨[[("_id", .ofInt 1), ("f", above)]],
          [.identity, ⟨"f_1", [("f", .ofInt 1)], true⟩]⟩)],
        default⟩
    above.compare limit = .eq ∧
      Document.meets [("f", above)] [("f", limit)] = .ok true ∧
      (∃ outcome,
        Update.apply [("f", .array [.int32 1, above])]
          (Update.single .addToSet "f" limit) = .ok outcome ∧
        outcome.document.getPath? "f" = some (.array [.int32 1, above])) ∧
      ¬ ∃ id, (store.insert "c" [("_id", .ofInt 2), ("f", limit)]).result =
        .ok id := by
  intro above limit store
  have laws : IntegerLaws above limit 0x20000000000001 0x20000000000000 :=
    integerLaws_of_integers (by rfl) (by rfl)
  have same : nearestInt 0x20000000000001 = nearestInt 0x20000000000000 := by
    decide +kernel
  refine ⟨?_, ?_, ?_, ?_⟩
  · rw [laws.compared, same]
    simp
  · rw [laws.matched [("f", above)] "f" (by decide) rfl, same]
    simp
  · have added := laws.added [("f", .array [.int32 1, above])] "f"
      [.int32 1, above] [1, 0x20000000000001] rfl rfl
    rwa [if_pos (by simp [same])] at added
  · have inserted := laws.inserted store "c" _ "f" (.ofInt 1) _
      [("_id", .ofInt 2), ("f", limit)] rfl rfl rfl rfl rfl (by decide +kernel)
    exact fun accepted => inserted.mp accepted same

end DocQuery
