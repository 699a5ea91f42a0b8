import DocQuery.Proofs.Clause.Changes
import DocQuery.Proofs.Filter.Failure
import DocQuery.Proofs.Outcome
import DocQuery.Update

/-!
# Failures of updates

An update in the form that changes come to can always be read, and fails only
for what it meets on the way: at one path of one operator, in the document
that has been reached by then, a number is missing where one is added, an array
where items are, or a criterion is refused as a filter.
-/

namespace DocQuery

/-- An update cannot be read: an operator is not known, or its payload has
another form than it asks for. -/
def StoreError.isUnreadableUpdate : StoreError → Bool
  | .invalidOperation (.unknownUpdateOperator _)
  | .invalidOperation (.payloadNotDocument _)
  | .invalidOperation .renameTargetNotString => true
  | _ => false

theorem StoreError.not_unreadable_of_isOfFilter {failure : StoreError}
    (ofFilter : failure.isOfFilter = true) :
    failure.isUnreadableUpdate = false := by
  cases failure with
  | invalidOperation reason =>
    cases reason <;>
      simp_all [isOfFilter, Misuse.isOfFilter, isUnreadableUpdate]
  | _ => rfl

theorem Value.toBinary64?_eq_none_iff {value : Value} :
    value.toBinary64? = none ↔ value.isNumber = false := by
  cases value <;> simp [toBinary64?, isNumber]

namespace UpdateOperator

open Update

/-- The change that an operator makes at every path of its payload. -/
def change? : UpdateOperator →
    Option (Document → String → Value → Except StoreError Document)
  | .inc => some incrementField
  | .set => some setField
  | .unset => some unsetField
  | .addToSet => some addToSetField
  | .push => some pushField
  | .pop => some popField
  | .pull => some pullField
  | .rename => none

/-- The operator changes arrays. -/
def takesArray : UpdateOperator → Bool
  | .addToSet | .push | .pop | .pull => true
  | .inc | .set | .unset | .rename => false

theorem applyOperator_document {operator : UpdateOperator}
    {change : Document → String → Value → Except StoreError Document}
    (known : operator.change? = some change) (document entries : Document) :
    applyOperator document operator.name (.document entries) =
      forEach change entries document := by
  cases operator <;> cases known <;> rfl

theorem exists_change {operator : UpdateOperator}
    (plain : operator ≠ .rename) :
    ∃ change, operator.change? = some change := by
  cases operator with
  | rename => exact absurd rfl plain
  | _ => exact ⟨_, rfl⟩

end UpdateOperator

namespace Update

/-! ## Why a change of one path fails -/

/-- A criterion is refused for an item: its operators, or the filter that it
is, cannot be evaluated. -/
inductive Refuses : Value → Value → StoreError → Prop
  | operators {criterion item : Value} {operators : Document}
      {failure : StoreError}
      (form : Filter.operators? criterion = some operators)
      (refused : Filter.meetsOperators (some item) operators = .error failure) :
      Refuses criterion item failure
  | filter {fields entries : Document} {failure : StoreError}
      (form : Filter.operators? (.document entries) = none)
      (refused : Document.meets fields entries = .error failure) :
      Refuses (.document entries) (.document fields) failure

/-- Why the change of a path fails in a document. -/
inductive Excuse (document : Document) (path : String) (operand : Value) :
    UpdateOperator → StoreError → Prop
  /-- What is added, or what it is added to, is no number. -/
  | increment
      (notNumeric : operand.isNumber = false ∨
        ∃ target, document.getPath? path = some target ∧
          target.isNumber = false) :
      Excuse document path operand .inc
        (.invalidOperation (.incrementNotNumeric path))
  /-- What an operator on arrays finds is no array. -/
  | target {operator : UpdateOperator} {target : Value}
      (onArrays : operator.takesArray = true)
      (found : document.getPath? path = some target)
      (notArray : target.asArray? = none) :
      Excuse document path operand operator
        (.invalidOperation (.fieldNotArray path))
  /-- The criterion is refused for an item, and for no item before. -/
  | criterion {before after : List Value} {item : Value} {failure : StoreError}
      (found : document.getPath? path = some (.array (before ++ item :: after)))
      (accepted : ∀ earlier ∈ before, ∀ other, ¬ Refuses operand earlier other)
      (refused : Refuses operand item failure) :
      Excuse document path operand .pull failure

theorem isPulled_eq_error_iff {item criterion : Value} {failure : StoreError} :
    isPulled item criterion = .error failure ↔
      Refuses criterion item failure := by
  constructor
  · intro failed
    unfold isPulled at failed
    split at failed
    · split at failed
      · next form => exact .operators form failed
      · next form =>
        split at failed
        · exact .filter form failed
        · cases failed
    · cases failed
  · intro refuses
    cases refuses with
    | operators form refused =>
      cases criterion with
      | document => simp only [isPulled, form, refused]
      | _ => cases form
    | filter form refused => simp only [isPulled, form, refused]

/-- A criterion that is not refused gives an answer. -/
theorem not_refuses_iff {item criterion : Value} :
    (∀ failure, ¬ Refuses criterion item failure) ↔
      ∃ pulled, isPulled item criterion = .ok pulled := by
  simp only [← isPulled_eq_error_iff]
  cases isPulled item criterion <;> simp

/-- Removing items fails exactly at the first item for which the criterion is
refused. -/
theorem withoutPulled_eq_error_iff {criterion : Value} {items : List Value}
    {failure : StoreError} :
    withoutPulled criterion items = .error failure ↔
      ∃ before item after, items = before ++ item :: after ∧
        (∀ earlier ∈ before, ∀ other, ¬ Refuses criterion earlier other) ∧
        Refuses criterion item failure := by
  induction items with
  | nil => simp [withoutPulled]
  | cons item rest ih =>
    simp only [withoutPulled, bind, bind_eq_error_iff, reduceCtorEq, and_false,
      exists_false, or_false, isPulled_eq_error_iff, ih]
    constructor
    · rintro (refused | ⟨pulled, accepted, before, bad, after, rfl, others⟩)
      · exact ⟨[], item, rest, rfl, by simp, refused⟩
      · refine ⟨item :: before, bad, after, rfl, ?_, others.2⟩
        intro earlier member
        rcases List.mem_cons.mp member with rfl | member
        · exact not_refuses_iff.mpr ⟨pulled, accepted⟩
        · exact others.1 earlier member
    · rintro ⟨before, bad, after, split, accepted, refused⟩
      rcases List.cons_eq_append_iff.mp split with
        ⟨rfl, same⟩ | ⟨front, rfl, same⟩
      · cases same
        exact Or.inl refused
      · rcases not_refuses_iff.mp (accepted item List.mem_cons_self) with
          ⟨pulled, answered⟩
        exact Or.inr ⟨pulled, answered, front, bad, after, same,
          fun earlier member =>
            accepted earlier (List.mem_cons_of_mem _ member), refused⟩

theorem add_eq_error_iff {current : Option Value} {increment : Value}
    {field : String} {failure : StoreError} :
    add current increment field = .error failure ↔
      failure = .invalidOperation (.incrementNotNumeric field) ∧
        (increment.isNumber = false ∨
          ∃ target, current = some target ∧ target.isNumber = false) := by
  have augend : (∃ target, current = some target ∧ target.isNumber = false) ↔
      (current.getD (.int32 0)).isNumber = false := by
    cases current <;> simp [Value.isNumber]
  rw [augend]
  unfold add
  split
  case h_5 amount _ _ _ _ _ _ =>
    simp only [← Value.toBinary64?_eq_none_iff]
    split
    · next first second => simp [first, second]
    · next noSum =>
      have missing : amount.toBinary64? = none ∨
          (current.getD (.int32 0)).toBinary64? = none := by
        rcases right : amount.toBinary64? with _ | second
        · exact Or.inl rfl
        · rcases left : (current.getD (.int32 0)).toBinary64? with _ | first
          · exact Or.inr rfl
          · exact (noSum first second left right).elim
      rw [and_iff_left missing, Except.error.injEq, eq_comm]
  all_goals simp_all [Value.isNumber]

theorem arrayAt_eq_error_iff {document : Document} {path : String}
    {failure : StoreError} :
    arrayAt document path = .error failure ↔
      failure = .invalidOperation (.fieldNotArray path) ∧
        ∃ target, document.getPath? path = some target ∧
          target.asArray? = none := by
  unfold arrayAt
  split
  · next found => simp [found]
  · next found => simp [found, Value.asArray?]
  · next target other found =>
    have notArray : target.asArray? = none := by
      cases target with
      | array items => exact absurd rfl (other items)
      | _ => rfl
    simp [found, notArray, eq_comm]

namespace Excuse

variable {document : Document} {path : String} {operand : Value}
  {failure : StoreError}

theorem increment_iff :
    Excuse document path operand .inc failure ↔
      add (document.getPath? path) operand path = .error failure := by
  rw [add_eq_error_iff]
  constructor
  · intro excuse
    cases excuse with
    | increment notNumeric => exact ⟨rfl, notNumeric⟩
    | target onArrays => cases onArrays
  · rintro ⟨rfl, notNumeric⟩
    exact .increment notNumeric

theorem array_iff {operator : UpdateOperator}
    (onArrays : operator.takesArray = true) :
    Excuse document path operand operator failure ↔
      arrayAt document path = .error failure ∨
        operator = .pull ∧
          ∃ items, document.getPath? path = some (.array items) ∧
            withoutPulled operand items = .error failure := by
  rw [arrayAt_eq_error_iff]
  constructor
  · intro excuse
    cases excuse with
    | increment => cases onArrays
    | target _ found notArray => exact Or.inl ⟨rfl, _, found, notArray⟩
    | criterion found accepted refused =>
      exact Or.inr ⟨rfl, _, found, withoutPulled_eq_error_iff.mpr
        ⟨_, _, _, rfl, accepted, refused⟩⟩
  · rintro (⟨rfl, target, found, notArray⟩ | ⟨rfl, items, found, failed⟩)
    · exact .target onArrays found notArray
    · rcases withoutPulled_eq_error_iff.mp failed with
        ⟨before, item, after, rfl, accepted, refused⟩
      exact .criterion found accepted refused

/-- Operators that neither add numbers nor change arrays never fail. -/
theorem inc_or_takesArray {operator : UpdateOperator}
    (excuse : Excuse document path operand operator failure) :
    operator = .inc ∨ operator.takesArray = true := by
  cases excuse with
  | increment => exact Or.inl rfl
  | target onArrays => exact Or.inr onArrays
  | criterion => exact Or.inr rfl

/-- No excuse is that the update cannot be read. -/
theorem not_unreadable {operator : UpdateOperator}
    (excuse : Excuse document path operand operator failure) :
    failure.isUnreadableUpdate = false := by
  cases excuse with
  | increment => rfl
  | target => rfl
  | criterion _ _ refused =>
    cases refused with
    | operators _ refused =>
      exact StoreError.not_unreadable_of_isOfFilter
        (Filter.blamesFilter_meetsEach _ _ _ _ refused)
    | filter _ refused =>
      exact StoreError.not_unreadable_of_isOfFilter
        (Filter.blamesFilter_meets _ _ _ refused)

end Excuse

/-- The change of a path fails exactly with an excuse. -/
theorem change_eq_error_iff {operator : UpdateOperator}
    {change : Document → String → Value → Except StoreError Document}
    (known : operator.change? = some change) {document : Document}
    {path : String} {operand : Value} {failure : StoreError} :
    change document path operand = .error failure ↔
      Excuse document path operand operator failure := by
  cases operator with
  | rename => cases known
  | set | unset =>
    cases known
    simp only [setField, unsetField, reduceCtorEq, false_iff]
    intro excuse
    rcases excuse.inc_or_takesArray with other | onArrays
    · cases other
    · cases onArrays
  | inc =>
    cases known
    simp [incrementField, bind, bind_eq_error_iff, Excuse.increment_iff]
  | addToSet | push =>
    cases known
    rw [Excuse.array_iff rfl]
    simp [addToSetField, pushField, bind, bind_eq_error_iff]
  | pop =>
    cases known
    rw [Excuse.array_iff rfl, popField]
    split
    · next missing => simp [arrayAt, missing]
    · simp [bind, bind_eq_error_iff]
  | pull =>
    cases known
    rw [Excuse.array_iff rfl, pullField]
    split
    · next missing => simp [arrayAt, missing]
    · next target found =>
      cases target <;> simp [bind, bind_eq_error_iff, arrayAt, found]

/-! ## Where an update fails -/

/-- Carry out operators in order. -/
def carryOut (update document : Document) : Except StoreError Document :=
  update.foldlM
    (fun changed (operator, spec) => applyOperator changed operator spec)
    document

/-- An update comes to the operand of a path with the document that all
operators before, and the paths before of the same operator, have made. -/
def ComesTo (document update : Document) (operator : UpdateOperator)
    (path : String) (operand : Value) (reached : Document) : Prop :=
  ∃ before done rest after middle,
    update = before ++
      (operator.name, .document (done ++ (path, operand) :: rest)) :: after ∧
    carryOut before document = .ok middle ∧
    applyOperator middle operator.name (.document done) = .ok reached

theorem renamePairs_renamePair (names : List (String × String)) :
    renamePairs (.array ((names.map Change.renamePair).map .document)) =
      .ok names := by
  have documents : ((names.map Change.renamePair).map
      Value.document).filterMap Value.asDocument? =
      names.map Change.renamePair := by
    simp [List.filterMap_map, Function.comp_def, Value.asDocument?]
  simp only [renamePairs, documents]
  clear documents
  induction names with
  | nil => rfl
  | cons pair rest ih =>
    simp only [List.map_cons, List.flatten_cons, Change.renamePair,
      List.singleton_append, List.mapM_cons, ih]
    rfl

theorem applyOperator_rename (document : Document)
    (names : List (String × String)) :
    applyOperator document UpdateOperator.rename.name
        (.array ((names.map Change.renamePair).map .document)) =
      .ok (names.foldl renameField document) := by
  have read : applyOperator document UpdateOperator.rename.name
      (.array ((names.map Change.renamePair).map .document)) =
      (renamePairs (.array ((names.map Change.renamePair).map .document))).bind
        fun pairs => .ok (pairs.foldl renameField document) := rfl
  rw [read, renamePairs_renamePair]
  rfl

/-- An operator fails on a payload that it accepts exactly where one of its
paths has an excuse. -/
theorem applyOperator_eq_error_iff {operator : UpdateOperator} {payload : Value}
    (accepts : operator.Accepts payload) {document : Document}
    {failure : StoreError} :
    applyOperator document operator.name payload = .error failure ↔
      ∃ done path operand rest reached,
        payload = .document (done ++ (path, operand) :: rest) ∧
        applyOperator document operator.name (.document done) = .ok reached ∧
        Excuse reached path operand operator failure := by
  cases accepts with
  | pairs names =>
    rw [applyOperator_rename]
    simp
  | fields plain entries =>
    rcases UpdateOperator.exists_change plain with ⟨change, known⟩
    simp only [UpdateOperator.applyOperator_document known, forEach,
      foldlM_eq_error_iff, change_eq_error_iff known, Value.document.injEq,
      Prod.exists]

/-- Operators with payloads that they accept fail exactly where they come to
an excuse. -/
theorem carryOut_eq_error_iff {document update : Document}
    (accepted : Updates.Accepted update) {failure : StoreError} :
    carryOut update document = .error failure ↔
      ∃ operator path operand reached,
        ComesTo document update operator path operand reached ∧
        Excuse reached path operand operator failure := by
  simp only [carryOut, foldlM_eq_error_iff]
  constructor
  · rintro ⟨before, ⟨name, payload⟩, after, middle, rfl, run, failed⟩
    rcases accepted (name, payload) (by simp) with ⟨operator, rfl, accepts⟩
    rcases (applyOperator_eq_error_iff accepts).mp failed with
      ⟨done, path, operand, rest, reached, rfl, made, excuse⟩
    exact ⟨operator, path, operand, reached,
      ⟨before, done, rest, after, middle, rfl, run, made⟩, excuse⟩
  · rintro ⟨operator, path, operand, reached,
      ⟨before, done, rest, after, middle, rfl, run, made⟩, excuse⟩
    rcases accepted _ (List.mem_append_right _ List.mem_cons_self) with
      ⟨known, same, accepts⟩
    rcases UpdateOperator.name_injective same with rfl
    exact ⟨before, _, after, middle, rfl, run,
      (applyOperator_eq_error_iff accepts).mpr
        ⟨done, path, operand, rest, reached, rfl, made, excuse⟩⟩

/-- An update of known operators fails exactly where carrying them out comes
to an excuse; the empty update replaces the document, which never fails. -/
theorem apply_eq_error_iff {document update : Document}
    (accepted : Updates.Accepted update) {failure : StoreError} :
    apply document update = .error failure ↔
      ∃ operator path operand reached,
        ComesTo document update operator path operand reached ∧
        Excuse reached path operand operator failure := by
  have named : ∀ entry ∈ update, isOperatorName entry.1 = true := by
    intro entry member
    rcases accepted entry member with ⟨operator, same, -⟩
    rw [← same]
    cases operator <;> decide
  rw [← carryOut_eq_error_iff accepted, apply, map_eq_error_iff, result,
    List.filter_eq_self.mpr named]
  cases update with
  | nil => simp [hasOperators, carryOut, pure, Except.pure]
  | cons entry rest =>
    rw [if_pos (by simp [hasOperators, named entry])]
    rfl

end Update

namespace Envelope

open Grouping

/-- The update of a query has one entry for every operator by which a change
is made, in the order of first use, with the payload that the changes by this
operator come to.  Such an update can be read whatever the document, and
carrying it out fails exactly where it comes to a path with an excuse. -/
theorem update_followAll (directives : List Directive) :
    (empty.followAll directives).compile.update =
        Updates.named (grouped UpdateOperator.payloadOf
          (Change.given (Directive.changes directives))) ∧
      (empty.followAll directives).compile.update.Distinct ∧
      ∀ document failure,
        (Update.apply document (empty.followAll directives).compile.update =
            .error failure ↔
          ∃ operator path operand reached,
            Update.ComesTo document
              (empty.followAll directives).compile.update operator path operand
              reached ∧
            Update.Excuse reached path operand operator failure) ∧
        (failure.isUnreadableUpdate = true →
          Update.apply document (empty.followAll directives).compile.update ≠
            .error failure) := by
  have compiled : (empty.followAll directives).compile.update =
      Updates.named (grouped UpdateOperator.payloadOf
        (Change.given (Directive.changes directives))) :=
    (congrArg Updates.document (updates_followAll empty directives)).trans
      (Updates.document_foldl_record (Directive.changes directives))
  have accepted :=
    Updates.accepted_named_grouped (Directive.changes directives)
  rw [compiled]
  refine ⟨rfl, Updates.distinct_named_grouped _ _, fun document failure => ?_⟩
  refine ⟨Update.apply_eq_error_iff accepted, fun unreadable failed => ?_⟩
  rcases (Update.apply_eq_error_iff accepted).mp failed with
    ⟨operator, path, operand, reached, -, excuse⟩
  exact absurd unreadable (by simp [excuse.not_unreadable])

/-- Changes by several operators in turn, with a condition between them. -/
def mixedChanges : List Directive :=
  [.change (.push "b" (.ofInt 1)), .change (.rename "a" "d"),
    .condition (.equal "a" .null), .change (.increment "c" (.string "x")),
    .change (.pushAll [("b", .ofInt 2)]), .change (.pull "e" .null),
    .change (.rename "d" "f"), .change (.pull "b" (.ofInt 2))]

theorem update_followAll_mixedChanges :
    (empty.followAll mixedChanges).compile.update =
        [("$push", .document [("b", .ofInt 2)]),
          ("$rename", .array [.document [("a", .string "d")],
            .document [("d", .string "f")]]),
          ("$inc", .document [("c", .string "x")]),
          ("$pull", .document [("b", .ofInt 2)])] ∧
      Update.apply [] (empty.followAll mixedChanges).compile.update =
        .error (.invalidOperation (.incrementNotNumeric "c")) ∧
      (∃ operator path operand reached,
        Update.ComesTo [] (empty.followAll mixedChanges).compile.update operator
          path operand reached ∧
        Update.Excuse reached path operand operator
          (.invalidOperation (.incrementNotNumeric "c"))) ∧
      Update.apply [] (empty.followAll mixedChanges).compile.update ≠
        .error (.invalidOperation .renameTargetNotString) :=
  have failed : Update.apply [] (empty.followAll mixedChanges).compile.update =
      .error (.invalidOperation (.incrementNotNumeric "c")) := by rfl
  ⟨(update_followAll mixedChanges).1, failed,
    ((update_followAll mixedChanges).2.2 [] _).1.mp failed,
    ((update_followAll mixedChanges).2.2 [] _).2 rfl⟩

end Envelope

end DocQuery
