import DocQuery.Proofs.Document.Removal
import DocQuery.Proofs.Update.Accumulation
import DocQuery.Proofs.Value.Sign

/-!
# Operators on arrays

Four operators change the array at a path: two append items, one of them only
those that are not there yet, and two remove items, at one end or wherever a
criterion is met.  Each of them writes an array at its path or leaves the
document as it is, so what is apart from the path is kept by all of them alike;
what the array becomes is said of lists.
-/

namespace DocQuery

namespace Update

/-! ## Items that are met by a criterion -/

/-- An item meets a criterion: its operators, or the filter that it is, or by
agreeing with it. -/
inductive Satisfies : Value → Value → Prop
  | operators {criterion item : Value} {operators : Document}
      (form : Filter.operators? criterion = some operators)
      (met : Filter.meetsOperators (some item) operators = .ok true) :
      Satisfies criterion item
  | filter {fields entries : Document}
      (form : Filter.operators? (.document entries) = none)
      (met : Document.meets fields entries = .ok true) :
      Satisfies (.document entries) (.document fields)
  | literal {criterion item : Value} (form : criterion.asDocument? = none)
      (agrees : item.agrees criterion = true) : Satisfies criterion item

theorem isPulled_eq_ok_true_iff {item criterion : Value} :
    isPulled item criterion = .ok true ↔ Satisfies criterion item := by
  constructor
  · intro pulled
    unfold isPulled at pulled
    split at pulled
    · split at pulled
      · next form => exact .operators form pulled
      · next form =>
        split at pulled
        · exact .filter form pulled
        · cases pulled
    · next notDocument =>
      refine .literal ?_ (Except.ok.inj pulled)
      cases criterion with
      | document entries => exact absurd rfl (notDocument entries)
      | _ => rfl
  · intro satisfies
    cases satisfies with
    | operators form met =>
      cases criterion with
      | document => simp only [isPulled, form, met]
      | _ => cases form
    | filter form met => simp only [isPulled, form, met]
    | literal form agrees =>
      cases criterion with
      | document => cases form
      | _ => simp only [isPulled, agrees]

/-- A selection of the items that do not meet a criterion. -/
def SparesFrom (criterion : Value) (keep : Value → Bool) : Prop :=
  ∀ item, keep item = true ↔ ¬ Satisfies criterion item

/-- Where no item is refused, the items that are left are those that do not
meet the criterion. -/
theorem withoutPulled_eq_filter {criterion : Value} {keep : Value → Bool}
    (spares : SparesFrom criterion keep) {items kept : List Value}
    (pulled : withoutPulled criterion items = .ok kept) :
    kept = items.filter keep := by
  induction items generalizing kept with
  | nil => exact (Except.ok.inj pulled).symm
  | cons item rest ih =>
    simp only [withoutPulled, bind, bind_eq_ok_iff] at pulled
    rcases pulled with ⟨hit, found, keptRest, others, equal⟩
    rcases Except.ok.inj equal with rfl
    rw [List.filter_cons, ← ih others]
    cases hit with
    | true =>
      have gone : ¬ keep item = true := fun stays =>
        (spares item).mp stays (isPulled_eq_ok_true_iff.mp found)
      rw [if_pos rfl, if_neg gone]
    | false =>
      have stays : keep item = true := by
        refine (spares item).mpr fun satisfies => ?_
        rw [isPulled_eq_ok_true_iff.mpr satisfies] at found
        cases found
      rw [if_neg Bool.false_ne_true, if_pos stays]

/-- Removing items succeeds exactly if the criterion is refused for none. -/
theorem exists_withoutPulled_iff {criterion : Value} {items : List Value} :
    (∃ kept, withoutPulled criterion items = .ok kept) ↔
      ∀ item ∈ items, ∀ failure, ¬ Refuses criterion item failure := by
  induction items with
  | nil => simp [withoutPulled]
  | cons item rest ih =>
    rw [List.forall_mem_cons, ← ih, not_refuses_iff]
    simp only [withoutPulled, bind, bind_eq_ok_iff]
    constructor
    · rintro ⟨kept, hit, answered, others, left, -⟩
      exact ⟨⟨hit, answered⟩, others, left⟩
    · rintro ⟨⟨hit, answered⟩, others, left⟩
      exact ⟨_, hit, answered, others, left, rfl⟩

theorem exists_sparesFrom (criterion : Value) :
    ∃ keep, SparesFrom criterion keep := by
  refine ⟨fun item => (isPulled item criterion).toOption != some true, ?_⟩
  intro item
  rw [bne_iff_ne, ne_eq, ← isPulled_eq_ok_true_iff, not_iff_not]
  cases isPulled item criterion <;> simp [Except.toOption]

/-! ## Items that are not there yet -/

/-- Two items, the first before the second, that do not agree. -/
def Differ (first second : Value) : Prop := first.agrees second = false

/-- The additions complete a list by given items: in their order, each of them
new where it is appended, and none of them missing in the end. -/
structure Completes (items given additions : List Value) : Prop where
  inOrder : additions.Sublist given
  /-- An addition differs from all items before it. -/
  new : ∀ before item after, additions = before ++ item :: after →
    ∀ known ∈ items ++ before, Differ known item
  complete : ∀ item ∈ given, ∃ known ∈ items ++ additions,
    known = item ∨ known.agrees item = true

/-- Items that stand in a relation to all of those before them stand in it
pairwise. -/
theorem pairwise_of_splits {related : Value → Value → Prop}
    {items : List Value}
    (each : ∀ before item after, items = before ++ item :: after →
      ∀ known ∈ before, related known item) : items.Pairwise related := by
  induction items using List.reverseRecOn with
  | nil => exact .nil
  | append_singleton front last ih =>
    refine List.pairwise_append.mpr
      ⟨ih ?_, List.pairwise_singleton related last, ?_⟩
    · intro before item after split known member
      exact each before item (after ++ [last]) (by simp [split]) known member
    · intro known member item single
      rw [List.mem_singleton.mp single]
      exact each front last [] rfl known member

/-- Items that differ pairwise still do after the additions. -/
theorem Completes.pairwise {items given additions : List Value}
    (completes : Completes items given additions)
    (distinct : items.Pairwise Differ) :
    (items ++ additions).Pairwise Differ := by
  refine List.pairwise_append.mpr ⟨distinct, ?_, ?_⟩
  · refine pairwise_of_splits fun before item after split known member => ?_
    exact completes.new before item after split known
      (List.mem_append_right _ member)
  · intro known inItems item inAdditions
    rcases List.append_of_mem inAdditions with ⟨before, after, split⟩
    exact completes.new before item after split known
      (List.mem_append_left _ inItems)

/-- Appending what is missing completes a list. -/
theorem exists_completes (items given : List Value) :
    ∃ additions, addMissing items given = items ++ additions ∧
      Completes items given additions := by
  induction given generalizing items with
  | nil =>
    refine ⟨[], (List.append_nil items).symm, List.Sublist.refl _, ?_, ?_⟩
    · intro before item after split
      simp at split
    · intro item member
      cases member
  | cons item rest ih =>
    cases present : items.any fun known => known.agrees item with
    | true =>
      rcases ih items with ⟨additions, extended, completes⟩
      refine ⟨additions, ?_, completes.inOrder.cons item, completes.new, ?_⟩
      · rw [← extended, addMissing, List.foldl_cons, if_pos present]
        rfl
      · intro other member
        rcases List.mem_cons.mp member with rfl | later
        · rcases List.any_eq_true.mp present with ⟨known, inItems, agrees⟩
          exact ⟨known, List.mem_append_left _ inItems, Or.inr agrees⟩
        · exact completes.complete other later
    | false =>
      rcases ih (items ++ [item]) with ⟨additions, extended, completes⟩
      have joined : items ++ item :: additions =
          items ++ [item] ++ additions := by simp
      refine ⟨item :: additions, ?_, completes.inOrder.cons_cons item, ?_, ?_⟩
      · rw [joined, ← extended, addMissing, List.foldl_cons,
          if_neg (Bool.eq_false_iff.mp present)]
        rfl
      · intro before other after split known member
        cases before with
        | nil =>
          rcases List.cons.inj split with ⟨rfl, -⟩
          rw [List.append_nil] at member
          exact Bool.eq_false_iff.mpr
            (List.any_eq_false.mp present known member)
        | cons first front =>
          rcases List.cons.inj split with ⟨rfl, rest_split⟩
          refine completes.new front other after rest_split known ?_
          simpa using member
      · intro other member
        rw [joined]
        rcases List.mem_cons.mp member with rfl | later
        · exact ⟨other, by simp, Or.inl rfl⟩
        · exact completes.complete other later

/-! ## One change of an array -/

variable {document next : Document} {path : String} {operand : Value}
  {operator : UpdateOperator}
  {change : Document → String → Value → Except StoreError Document}

/-- Items stand at a path: those of an array there, or none if nothing is. -/
def Holds (document : Document) (path : String) (items : List Value) : Prop :=
  document.getPath? path = some (.array items) ∨
    document.getPath? path = none ∧ items = []

theorem arrayAt_of_holds {items : List Value}
    (holds : Holds document path items) :
    arrayAt document path = .ok items := by
  rcases holds with found | ⟨missing, rfl⟩
  · rw [arrayAt, found]
  · rw [arrayAt, missing]

/-- An operator on arrays writes an array or leaves the document. -/
theorem eq_or_eq_setPath_of_change (onArrays : operator.takesArray = true)
    (known : operator.change? = some change)
    (changed : change document path operand = .ok next) :
    next = document ∨ ∃ items, next = document.setPath path (.array items) := by
  cases operator with
  | inc | set | unset | rename => cases onArrays
  | push | addToSet =>
    cases known
    simp only [pushField, addToSetField, bind, bind_eq_ok_iff] at changed
    rcases changed with ⟨items, -, written⟩
    exact Or.inr ⟨_, (Except.ok.inj written).symm⟩
  | pop =>
    cases known
    unfold popField at changed
    split at changed
    · exact Or.inl (Except.ok.inj changed).symm
    · simp only [bind, bind_eq_ok_iff] at changed
      rcases changed with ⟨items, -, written⟩
      exact Or.inr ⟨_, (Except.ok.inj written).symm⟩
  | pull =>
    cases known
    unfold pullField at changed
    split at changed
    · exact Or.inl (Except.ok.inj changed).symm
    · simp only [bind, bind_eq_ok_iff] at changed
      rcases changed with ⟨items, -, kept, -, written⟩
      exact Or.inr ⟨_, (Except.ok.inj written).symm⟩

theorem popField_of_array {items : List Value}
    (found : document.getPath? path = some (.array items)) :
    popField document path operand =
      .ok (document.setPath path (.array
        (if operand.isBelowZero then items.drop 1 else items.dropLast))) := by
  rw [popField, found, arrayAt_of_holds (Or.inl found)]
  rfl

theorem pullField_of_array {items : List Value}
    (found : document.getPath? path = some (.array items)) :
    pullField document path operand =
      (withoutPulled operand items).map fun kept =>
        document.setPath path (.array kept) := by
  rw [pullField, found, arrayAt_of_holds (Or.inl found)]
  simp only [bind, Except.bind]
  cases withoutPulled operand items <;> rfl

/-! ## Updates of one array -/

theorem exists_of_change (known : operator.change? = some change)
    (changed : change document path operand = .ok next) :
    ∃ outcome, apply document (single operator path operand) = .ok outcome ∧
      outcome.document = next :=
  map_eq_ok_iff.mp ((apply_single known document operand).trans changed)

theorem change_of_apply (known : operator.change? = some change)
    {outcome : Outcome}
    (applied : apply document (single operator path operand) = .ok outcome) :
    change document path operand = .ok outcome.document := by
  rw [← apply_single known, applied]
  rfl

/-- What the operators on arrays do at a path of a document with an operand. -/
structure ArrayLaws (document : Document) (path : String) (operand : Value) :
    Prop where
  /-- Pushing appends the items of the operand. -/
  pushed : ∀ items, Holds document path items →
    ∃ outcome, apply document (single .push path operand) = .ok outcome ∧
      outcome.document.getPath? path =
        some (.array (items ++ itemsOf operand))
  /-- Adding to a set appends the items of the operand that are missing. -/
  added : ∀ items, Holds document path items →
    ∃ outcome additions,
      apply document (single .addToSet path operand) = .ok outcome ∧
      outcome.document.getPath? path = some (.array (items ++ additions)) ∧
      Completes items (itemsOf operand) additions ∧
      (items.Pairwise Differ → (items ++ additions).Pairwise Differ)
  /-- Pulling leaves the items that do not meet the criterion, if there is none
  for which it is refused. -/
  pulled : ∀ items, document.getPath? path = some (.array items) →
    ((∃ outcome, apply document (single .pull path operand) = .ok outcome) ↔
      ∀ item ∈ items, ∀ failure, ¬ Refuses operand item failure) ∧
    ∀ outcome, apply document (single .pull path operand) = .ok outcome →
      ∃ keep, SparesFrom operand keep ∧
        outcome.document.getPath? path = some (.array (items.filter keep))
  /-- Popping removes one item of those there are: the first, if the operand is
  below zero and does not round to zero, and else the last. -/
  popped : ∀ items, document.getPath? path = some (.array items) →
    ∃ outcome, apply document (single .pop path operand) = .ok outcome ∧
      outcome.document.getPath? path = some (.array
        (if operand.isNegative && !operand.roundsToZero then items.drop 1
        else items.dropLast))
  /-- Nothing is removed where nothing is found. -/
  kept_of_missing : document.getPath? path = none →
    ∀ operator ∈ [UpdateOperator.pull, .pop],
      ∃ outcome, apply document (single operator path operand) = .ok outcome ∧
        outcome.document = document
  /-- Where something else than an array is found, all of them fail. -/
  refused : ∀ value, document.getPath? path = some value →
    value.asArray? = none → ∀ operator : UpdateOperator,
      operator.takesArray = true →
        apply document (single operator path operand) =
          .error (.invalidOperation (.fieldNotArray path))
  /-- What is apart from the path is kept. -/
  elsewhere : ∀ operator : UpdateOperator, operator.takesArray = true →
    ∀ outcome, apply document (single operator path operand) = .ok outcome →
      ∀ other, PathsApart path other →
        outcome.document.getPath? other = document.getPath? other

/-- At every readable path the operators on arrays do what their laws say. -/
theorem arrayLaws_of_readable (readable : isReadablePath path = true)
    (document : Document) (operand : Value) :
    ArrayLaws document path operand := by
  have written (items : List Value) :
      (document.setPath path (.array items)).getPath? path =
        some (.array items) :=
    Document.getPath?_setPath_self readable _ _
  constructor
  case pushed =>
    intro items holds
    have known : UpdateOperator.push.change? = some pushField := rfl
    have changed : pushField document path operand =
        .ok (document.setPath path (.array (items ++ itemsOf operand))) := by
      rw [pushField, arrayAt_of_holds holds]
      rfl
    rcases exists_of_change known changed with
      ⟨outcome, applied, after⟩
    exact ⟨outcome, applied, by rw [after, written]⟩
  case added =>
    intro items holds
    rcases exists_completes items (itemsOf operand) with
      ⟨additions, extended, completes⟩
    have known : UpdateOperator.addToSet.change? = some addToSetField := rfl
    have changed : addToSetField document path operand =
        .ok (document.setPath path (.array (items ++ additions))) := by
      rw [addToSetField, arrayAt_of_holds holds, ← extended]
      rfl
    rcases exists_of_change known changed with
      ⟨outcome, applied, after⟩
    exact ⟨outcome, additions, applied, by rw [after, written], completes,
      completes.pairwise⟩
  case pulled =>
    intro items found
    have known : UpdateOperator.pull.change? = some pullField := rfl
    have pulls := @pullField_of_array document path operand items found
    refine ⟨?_, fun outcome applied => ?_⟩
    · rw [← exists_withoutPulled_iff]
      constructor
      · rintro ⟨outcome, applied⟩
        have changed := change_of_apply known applied
        rw [pulls, map_eq_ok_iff] at changed
        rcases changed with ⟨kept, left, -⟩
        exact ⟨kept, left⟩
      · rintro ⟨kept, left⟩
        rw [left] at pulls
        rcases exists_of_change known pulls with
          ⟨outcome, applied, -⟩
        exact ⟨outcome, applied⟩
    · rcases exists_sparesFrom operand with ⟨keep, spares⟩
      have changed := change_of_apply known applied
      rw [pulls, map_eq_ok_iff] at changed
      rcases changed with ⟨kept, left, after⟩
      refine ⟨keep, spares, ?_⟩
      rw [← after, written, withoutPulled_eq_filter spares left]
  case popped =>
    intro items found
    have known : UpdateOperator.pop.change? = some popField := rfl
    have pops := @popField_of_array document path operand items found
    rcases exists_of_change known pops with
      ⟨outcome, applied, after⟩
    refine ⟨outcome, applied, ?_⟩
    rw [after, written, Value.isBelowZero_eq]
  case kept_of_missing =>
    intro missing operator member
    rcases List.mem_pair.mp member with rfl | rfl
    · have known : UpdateOperator.pull.change? = some pullField := rfl
      exact exists_of_change known (by rw [pullField, missing])
    · have known : UpdateOperator.pop.change? = some popField := rfl
      exact exists_of_change known (by rw [popField, missing])
  case refused =>
    intro value found notArray operator onArrays
    have plain : operator ≠ .rename := by
      rintro rfl
      cases onArrays
    rcases UpdateOperator.exists_change plain with ⟨change, known⟩
    have excuse : Excuse document path operand operator
        (.invalidOperation (.fieldNotArray path)) :=
      .target onArrays found notArray
    rw [← change_eq_error_iff known, ← apply_single known,
      map_eq_error_iff] at excuse
    exact excuse
  case elsewhere =>
    intro operator onArrays outcome applied other apart
    have plain : operator ≠ .rename := by
      rintro rfl
      cases onArrays
    rcases UpdateOperator.exists_change plain with ⟨change, known⟩
    have changed := change_of_apply known applied
    rcases eq_or_eq_setPath_of_change onArrays known changed with
      same | ⟨items, same⟩
    · rw [same]
    · rw [same, Document.getPath?_setPath_of_apart apart]

/-- Of a list with items under `$each` only what agrees with no item is added,
and what is apart from the array is kept. -/
theorem arrayLaws_of_readable_each :
    let document : Document :=
      [("a", .document [("t", .array [.ofInt 1, .string "x"]), ("u", .null)])]
    let operand : Value :=
      .document [("$each", .array [.double (.ofInt 1), .string "y"])]
    ∃ outcome additions,
      apply document (single .addToSet "a.t" operand) = .ok outcome ∧
      outcome.document.getPath? "a.t" =
        some (.array ([.ofInt 1, .string "x"] ++ additions)) ∧
      Completes [.ofInt 1, .string "x"] [.double (.ofInt 1), .string "y"]
        additions ∧
      outcome.document.getPath? "a.u" = document.getPath? "a.u" := by
  intro document operand
  have readable : isReadablePath "a.t" = true := by decide +kernel
  have laws := arrayLaws_of_readable readable document operand
  have found : document.getPath? "a.t" =
      some (.array [.ofInt 1, .string "x"]) := by
    have names : pathNames "a.t" = ["a", "t"] := by decide +kernel
    rw [Document.getPath?, if_pos readable, names]
    rfl
  rcases laws.added _ (Or.inl found) with
    ⟨outcome, additions, applied, after, completes, -⟩
  exact ⟨outcome, additions, applied, after, completes,
    laws.elsewhere .addToSet rfl outcome applied "a.u" (by decide +kernel)⟩

/-- The number below zero whose only digit is the four hundredth after the
point. -/
def faintDecimal : Value := .decimal (.finite true 1 (-400))

/-- A number below zero that rounds to zero pops the last item, not the
first. -/
theorem popped_last_of_faintDecimal :
    faintDecimal.isNegative = true ∧
      ¬ ∃ outcome,
        apply [("a", .array [.ofInt 1, .ofInt 2])]
          (single .pop "a" faintDecimal) = .ok outcome ∧
        outcome.document.getPath? "a" = some (.array [.ofInt 2]) := by
  refine ⟨rfl, ?_⟩
  rintro ⟨outcome, applied, popped⟩
  have readable : isReadablePath "a" = true := by decide +kernel
  have names : pathNames "a" = ["a"] := by decide +kernel
  have found : Document.getPath? [("a", .array [.ofInt 1, .ofInt 2])] "a" =
      some (.array [.ofInt 1, .ofInt 2]) := by
    rw [Document.getPath?, if_pos readable, names]
    rfl
  have below : faintDecimal.isBelowZero = false := by decide +kernel
  have known : UpdateOperator.pop.change? = some popField := rfl
  have changed := change_of_apply known applied
  rw [popField_of_array found, below] at changed
  rw [← Except.ok.inj changed,
    Document.getPath?_setPath_self readable] at popped
  simp [Value.ofInt] at popped

end Update

end DocQuery
