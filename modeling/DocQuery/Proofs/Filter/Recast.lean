import DocQuery.Proofs.Document.Removal
import DocQuery.Proofs.Filter.Membership
import DocQuery.Proofs.Filter.Rearrangement
import DocQuery.Proofs.Value.Recast

/-!
# Filters with numbers in other kinds

A filter in which some integers are written as integers of 64 bits or as
doubles has the same form, fails where the first one does, and compares in
order, measures distances and looks for patterns as the first one does.  Two
things it asks can come out differently: whether a value equals an operand that
has numbers inside, and whether a flag is set.  Where neither is asked of an
operand that has changed, the two filters say the same of every document.
-/

namespace DocQuery

namespace Filter

open Value (Recast RecastEntries AgreedAlike LosesZero)

/-! ## Operands that are asked alike -/

/-- Of two lists of operands, the members that are looked at are agreed with
alike. -/
def ListedAlike : Value → Value → Prop
  | .array members, .array others =>
    List.Forall₂ AgreedAlike (members.take maxListed) (others.take maxListed)
  | _, _ => True

/-- What an operator asks of a value does not change when its operand is
recast. -/
def AskedAlike (operator : String) (operand other : Value) : Prop :=
  match operator with
  | "$eq" | "$ne" => AgreedAlike operand other
  | "$in" | "$nin" | "$all" => ListedAlike operand other
  | "$exists" => ¬ LosesZero operand other
  | _ => True

/-- Every operator of a condition is asked alike. -/
def OperatorsAlike : Document → Document → Prop
  | (operator, operand) :: rest, (_, other) :: others =>
    AskedAlike operator operand other ∧ OperatorsAlike rest others
  | _, _ => True

/-- A condition is asked alike: its operators are, or the literal that it is is
agreed with alike. -/
def ConditionAlike (condition other : Value) : Prop :=
  match operators? condition, operators? other with
  | some operators, some others => OperatorsAlike operators others
  | _, _ => AgreedAlike condition other

mutual

/-- All conditions of a filter are asked alike, however deep they stand. -/
def EntriesAlike :
    List (String × Value) → List (String × Value) → Prop
  | (name, condition) :: rest, (_, other) :: others =>
    EntryAlike name condition other ∧ EntriesAlike rest others
  | _, _ => True

/-- One entry of a filter is asked alike. -/
def EntryAlike (name : String) : Value → Value → Prop
  | .array items, .array others =>
    (IsLogical name → BranchesAlike items others) ∧
      (¬ IsLogical name → AgreedAlike (.array items) (.array others))
  | condition, other => ConditionAlike condition other

/-- All branches of a logical operator are asked alike. -/
def BranchesAlike : List Value → List Value → Prop
  | .document entries :: rest, .document others :: more =>
    EntriesAlike entries others ∧ BranchesAlike rest more
  | _, _ => True

end

/-! ## Operators -/

variable {value : Option Value} {operand other : Value}

theorem stands_recast (recast : Recast operand other)
    (order : Ordering → Bool) :
    stands order value operand = stands order value other := by
  unfold stands
  simp only [recast.compareAlike?_eq]

theorem matchesPattern_recast (recast : Recast operand other)
    {options others : Option Value}
    (same : options.bind Value.asString? = others.bind Value.asString?) :
    matchesPattern value operand options =
      matchesPattern value other others := by
  cases recast with
  | same => simp only [matchesPattern, same]
  | _ => rfl

theorem isNear_recast (operator : String) (recast : Recast operand other)
    {limit others : Option Value}
    (same : limit.bind Value.toBinary64? = others.bind Value.toBinary64?) :
    isNear operator value operand limit =
      isNear operator value other others := by
  simp only [isNear, recast.ofValue?_eq, same]

theorem isAmong_congr {members others : List Value}
    (looked : (members.take maxListed).map (agrees value) =
      (others.take maxListed).map (agrees value)) :
    isAmong value members = isAmong value others := by
  have any := congrArg (List.any · id) looked
  simpa only [isAmong, List.any_map, Function.id_comp] using any

theorem hasAll_congr {members others : List Value}
    (sameLength : members.length = others.length)
    (looked : (members.take maxListed).map (agrees value) =
      (others.take maxListed).map (agrees value)) :
    hasAll value members = hasAll value others := by
  have all := congrArg (List.all · id) looked
  simp only [List.all_map, Function.id_comp] at all
  have empty : members.isEmpty = others.isEmpty := by
    rw [Bool.eq_iff_iff, List.isEmpty_iff_length_eq_zero,
      List.isEmpty_iff_length_eq_zero, sameLength]
  rw [hasAll, hasAll, empty]
  exact congrArg (!others.isEmpty && ·) all

/-- A condition and the one it is recast to are both literals, or both have
operators. -/
theorem operators?_recast (recast : Recast operand other) :
    (operators? operand = none ∧ operators? other = none) ∨
      ∃ operators others,
        operand = .document operators ∧ other = .document others ∧
        operators? operand = some operators ∧
        operators? other = some others ∧
        RecastEntries operators others := by
  cases operand with
  | document operators =>
      rcases Value.recast_document_iff.mp recast with ⟨others, rfl, inside⟩
      cases inside with
      | nil => exact Or.inl ⟨rfl, rfl⟩
      | @cons name first changed rest more here later =>
          cases named : isOperatorName name with
          | false => simp [operators?, named]
          | true =>
              exact Or.inr ⟨_, _, rfl, rfl, if_pos named, if_pos named,
                .cons here later⟩
  | _ =>
      left
      cases recast <;> exact ⟨rfl, rfl⟩

/-! ## Conditions on a value -/

section

variable (valueProper : ∀ found, value = some found → found.wellFormed = true)

include valueProper

theorem agrees_recast (recast : Recast operand other)
    (alike : AgreedAlike operand other) (proper : operand.wellFormed = true) :
    agrees value operand = agrees value other := by
  cases value with
  | none => cases recast <;> rfl
  | some found =>
      exact recast.agreesOrContains_eq alike proper (valueProper found rfl)

theorem map_agrees_recast {members others : List Value}
    (each : List.Forall₂ Recast members others)
    (alike : List.Forall₂ AgreedAlike members others)
    (proper : ∀ member ∈ members, member.wellFormed = true) :
    members.map (agrees value) = others.map (agrees value) := by
  induction each with
  | nil => rfl
  | cons here later ih =>
      rcases alike with _ | ⟨first, rest⟩
      rw [List.map_cons, List.map_cons,
        agrees_recast valueProper here first (proper _ List.mem_cons_self),
        ih rest fun member listed =>
          proper member (List.mem_cons_of_mem _ listed)]

/-- An operator on lists reads of the members no more than their count and
which of those that are looked at are agreed with. -/
theorem listed_recast {read : List Value → Bool} (operator : String)
    (recast : Recast operand other) (alike : ListedAlike operand other)
    (proper : operand.wellFormed = true)
    (same : ∀ members others : List Value, members.length = others.length →
      (members.take maxListed).map (agrees value) =
        (others.take maxListed).map (agrees value) →
      read members = read others) :
    ((listed operator operand).bind fun members => .ok (read members)) =
      (listed operator other).bind fun members => .ok (read members) := by
  cases operand with
  | array members =>
      rcases Value.recast_array_iff.mp recast with ⟨others, rfl, each⟩
      have taken (member : Value) (listed : member ∈ members.take maxListed) :
          member.wellFormed = true :=
        Value.wellFormed_array.mp proper member (List.mem_of_mem_take listed)
      have looked := map_agrees_recast valueProper
        (List.forall₂_take maxListed each) alike taken
      exact congrArg Except.ok (same members others each.length_eq looked)
  | _ => cases recast <;> rfl

theorem meetsOperator_recast {all others : Document}
    (beside : RecastEntries all others) {operator : String}
    (recast : Recast operand other) (alike : AskedAlike operator operand other)
    (proper : operand.wellFormed = true) :
    meetsOperator value all operator operand =
      meetsOperator value others operator other := by
  have options : (all.get? "$options").bind Value.asString? =
      (others.get? "$options").bind Value.asString? :=
    beside.bind_get? Recast.asString?_eq "$options"
  have limit : (all.get? "$maxDistance").bind Value.toBinary64? =
      (others.get? "$maxDistance").bind Value.toBinary64? :=
    beside.bind_get? Recast.toBinary64?_eq "$maxDistance"
  unfold meetsOperator
  -- The cases are the operators in the order of the definition.
  split
  case h_1 => rw [agrees_recast valueProper recast alike proper]
  case h_2 => rw [agrees_recast valueProper recast alike proper]
  case h_3 | h_4 | h_5 | h_6 => rw [stands_recast recast]
  case h_7 =>
    refine listed_recast valueProper "$in" recast alike proper ?_
    intro members others sameLength looked
    exact isAmong_congr looked
  case h_8 =>
    refine listed_recast valueProper "$nin" recast alike proper ?_
    intro members others sameLength looked
    rw [isAmong_congr looked]
  case h_9 =>
    refine listed_recast valueProper "$all" recast alike proper ?_
    intro members others sameLength looked
    exact hasAll_congr sameLength looked
  case h_10 => rw [recast.truthy_eq_iff.mpr alike]
  case h_11 => exact matchesPattern_recast recast options
  case h_12 | h_13 => exact isNear_recast _ recast limit
  all_goals rfl

theorem meetsEach_recast {all otherAll operators others : Document}
    (beside : RecastEntries all otherAll)
    (inside : RecastEntries operators others)
    (alike : OperatorsAlike operators others)
    (proper : ∀ entry ∈ operators, entry.2.wellFormed = true) :
    meetsEach value all operators = meetsEach value otherAll others := by
  induction operators generalizing others with
  | nil =>
      cases inside
      rfl
  | cons entry rest ih =>
      cases inside with
      | cons here later =>
          have first := meetsOperator_recast valueProper beside here alike.1
            (proper _ List.mem_cons_self)
          have others := ih later alike.2 fun entry member =>
            proper entry (List.mem_cons_of_mem _ member)
          simp only [meetsEach, first, others]

theorem meetsCondition_recast (recast : Recast operand other)
    (alike : ConditionAlike operand other)
    (proper : operand.wellFormed = true) :
    meetsCondition value operand = meetsCondition value other := by
  unfold ConditionAlike at alike
  unfold meetsCondition
  rcases operators?_recast recast with
    ⟨literal, otherLiteral⟩ |
    ⟨operators, others, rfl, rfl, read, otherRead, inside⟩
  · simp only [literal, otherLiteral] at alike ⊢
    rw [agrees_recast valueProper recast alike proper]
  · simp only [read, otherRead] at alike ⊢
    exact meetsEach_recast valueProper inside inside alike
      (Document.wellFormed_iff.mp proper).2

end

/-! ## Filters -/

/-- Branches are accepted, or refused in the same way. -/
theorem branches_recast (name : String) {items others : List Value}
    (each : List.Forall₂ Recast items others) :
    branches name (.array items) = branches name (.array others) := by
  have documents : (items.all fun item => item.asDocument?.isSome) =
      others.all fun item => item.asDocument?.isSome := by
    induction each with
    | nil => rfl
    | cons here later ih =>
        simp only [List.all_cons, here.isSome_asDocument?_eq, ih]
  have empty : items.isEmpty = others.isEmpty := by
    cases each <;> rfl
  simp only [branches, empty, documents]

/-- A condition that is no array stands for itself alone. -/
theorem matchesEntry_of_asArray?_eq_none (document : Document) (name : String)
    {condition : Value} (plain : condition.asArray? = none) :
    matchesEntry document name condition =
      if name = "$or" ∨ name = "$and" ∨ name = "$nor" then
        .error (.invalidOperation (.noBranches name))
      else if isOperatorName name then
        .error (.invalidOperation (.unknownTopLevelOperator name))
      else meetsCondition (document.getPath? name) condition := by
  cases condition with
  | array items => cases plain
  | _ => simp only [matchesEntry]

theorem field_recast {document : Document}
    (documentProper : document.wellFormed = true) (name : String)
    (plain : operand.asArray? = none) (recast : Recast operand other)
    (alike : EntryAlike name operand other)
    (proper : operand.wellFormed = true) :
    matchesEntry document name operand = matchesEntry document name other := by
  have condition : ConditionAlike operand other := by
    cases operand with
    | array items => cases plain
    | _ => simpa only [EntryAlike] using alike
  rw [matchesEntry_of_asArray?_eq_none document name plain,
    matchesEntry_of_asArray?_eq_none document name
      (recast.asArray?_eq_none plain),
    meetsCondition_recast (fun _ => Document.wellFormed_getPath? documentProper)
      recast condition proper]

-- The recursion is that of the evaluation.
mutual

theorem matchesEntries_recast {document entries others : Document}
    (documentProper : document.wellFormed = true)
    (inside : RecastEntries entries others)
    (alike : EntriesAlike entries others)
    (proper : ∀ entry ∈ entries, entry.2.wellFormed = true) :
    matchesEntries document entries = matchesEntries document others := by
  cases inside with
  | nil => rfl
  | @cons name condition changed rest more here later =>
      simp only [EntriesAlike] at alike
      have first := matchesEntry_recast documentProper name here alike.1
        (proper _ List.mem_cons_self)
      have others := matchesEntries_recast documentProper later alike.2
        fun entry member => proper entry (List.mem_cons_of_mem _ member)
      simp only [matchesEntries, first, others]
termination_by sizeOf entries

theorem matchesEntry_recast {document : Document}
    (documentProper : document.wellFormed = true) (name : String)
    {condition other : Value} (recast : Recast condition other)
    (alike : EntryAlike name condition other)
    (proper : condition.wellFormed = true) :
    matchesEntry document name condition =
      matchesEntry document name other := by
  cases condition with
  | array items =>
      rcases Value.recast_array_iff.mp recast with ⟨others, rfl, each⟩
      simp only [EntryAlike] at alike
      have tried (logical : IsLogical name) :=
        matchesBranches_recast documentProper each (alike.1 logical)
          (Value.wellFormed_array.mp proper)
      rw [matchesEntry, matchesEntry, branches_recast name each]
      split_ifs with any every neither unknown
      · rw [(tried (Or.inr (Or.inl any))).1]
      · rw [(tried (Or.inl every)).2]
      · rw [(tried (Or.inr (Or.inr neither))).1]
      · rfl
      · have unlogical : ¬ IsLogical name := by
          rintro (here | here | here) <;> contradiction
        exact meetsCondition_recast
          (fun _ => Document.wellFormed_getPath? documentProper) recast
          (alike.2 unlogical) proper
  | _ => exact field_recast documentProper name rfl recast alike proper
termination_by sizeOf condition

/-- Branches are tried with the same outcome, whether one of them or all of
them have to be matched. -/
theorem matchesBranches_recast {document : Document}
    (documentProper : document.wellFormed = true) {items others : List Value}
    (each : List.Forall₂ Recast items others)
    (alike : BranchesAlike items others)
    (proper : ∀ item ∈ items, item.wellFormed = true) :
    matchesAny document items = matchesAny document others ∧
      matchesAll document items = matchesAll document others := by
  cases each with
  | nil => exact ⟨rfl, rfl⟩
  | @cons item other rest more here later =>
      cases item with
      | document entries =>
          rcases Value.recast_document_iff.mp here with ⟨others, rfl, inside⟩
          simp only [BranchesAlike] at alike
          have entriesProper : Document.wellFormed entries = true :=
            proper _ List.mem_cons_self
          have first := matchesEntries_recast documentProper inside alike.1
            (Document.wellFormed_iff.mp entriesProper).2
          rcases matchesBranches_recast documentProper later alike.2
            fun item member => proper item (List.mem_cons_of_mem _ member) with
            ⟨any, all⟩
          exact ⟨by simp only [matchesAny, first, any],
            by simp only [matchesAll, first, all]⟩
      | _ => cases here <;> simp only [matchesAny, matchesAll, and_self]
termination_by sizeOf items

end

/-- Two filters have the same outcome on every document. -/
def SaysAlike (filter other : Document) : Prop :=
  ∀ document : Document, document.wellFormed = true →
    document.meets filter = document.meets other

/-- Where every condition is asked alike, a filter says what the one that it is
recast to says. -/
theorem saysAlike_recast {filter other : Document}
    (proper : filter.wellFormed = true) (recast : RecastEntries filter other)
    (alike : EntriesAlike filter other) : SaysAlike filter other := by
  intro document documentProper
  exact matchesEntries_recast documentProper recast alike
    (Document.wellFormed_iff.mp proper).2

/-! ## Filters that ask one thing -/

/-- A filter asks one thing of the value at one readable path: that it equals a
literal, or what one operator asks with one operand. -/
def IsElementary (filter : Document) : Prop :=
  ∃ path condition, filter = [(path, condition)] ∧
    isReadablePath path = true ∧ isOperatorName path = false ∧
    ∀ operators, operators? condition = some operators →
      ∃ operator operand, operators = [(operator, operand)] ∧
        (operator ∈ ["$in", "$nin", "$all"] →
          ∀ members, operand = .array members → members.length ≤ 1)

section

variable {path : String} (readable : isReadablePath path = true)
  (recast : Recast operand other) (proper : operand.wellFormed = true)

include readable recast proper

/-- Operands are agreed with alike if filters that say whether the value at a
readable path agrees with them say the same, for that value can be any. -/
theorem agreedAlike_of_saysAlike {filter changed : Document}
    {turn : Bool → Bool} (injective : Function.Injective turn)
    (asked : ∀ document : Document, document.meets filter =
      .ok (turn (agrees (document.getPath? path) operand)))
    (otherAsked : ∀ document : Document, document.meets changed =
      .ok (turn (agrees (document.getPath? path) other)))
    (same : SaysAlike filter changed) : AgreedAlike operand other := by
  refine recast.agreedAlike proper fun found foundProper => ?_
  have both := same (Document.setPath [] path found)
    (Document.wellFormed_setPath Document.wellFormed_nil path foundProper)
  rw [asked, otherAsked, Document.getPath?_setPath_self readable] at both
  exact injective (Except.ok.inj both)

/-- An operator on lists that says of a single member whether it is agreed
with, or whether it is not. -/
theorem listedAlike_of_saysAlike {operator : String} {turn : Bool → Bool}
    (injective : Function.Injective turn)
    (single : ∀ members, operand = .array members → members.length ≤ 1)
    (asked : ∀ (document : Document) (member : Value),
      document.meets (asking path operator (.array [member])) =
        .ok (turn (agrees (document.getPath? path) member)))
    (same : SaysAlike (asking path operator operand)
      (asking path operator other)) :
    ListedAlike operand other := by
  cases operand with
  | array members =>
      rcases Value.recast_array_iff.mp recast with ⟨others, rfl, each⟩
      rcases each with _ | ⟨here, _ | _⟩
      · exact .nil
      · have memberProper :=
          Value.wellFormed_array.mp proper _ List.mem_cons_self
        exact .cons (agreedAlike_of_saysAlike readable here memberProper
          injective (asked · _) (asked · _) same) .nil
      · simpa using single _ rfl
  | _ => trivial

/-- One operator with one operand is asked alike if no document tells the
operands apart. -/
theorem askedAlike_of_saysAlike (field : isOperatorName path = false)
    {operator : String}
    (single : operator ∈ ["$in", "$nin", "$all"] →
      ∀ members, operand = .array members → members.length ≤ 1)
    (same : SaysAlike (asking path operator operand)
      (asking path operator other)) :
    AskedAlike operator operand other := by
  have negation : Function.Injective (!·) := fun _ _ => Bool.not_inj
  unfold AskedAlike
  split
  case h_1 =>
    exact agreedAlike_of_saysAlike readable recast proper
      Function.injective_id (fun _ => meets_asking_eq field _)
      (fun _ => meets_asking_eq field _) same
  case h_2 =>
    exact agreedAlike_of_saysAlike readable recast proper negation
      (fun _ => meets_asking_ne field _) (fun _ => meets_asking_ne field _) same
  case h_3 =>
    refine listedAlike_of_saysAlike readable recast proper
      Function.injective_id (single (by decide)) ?_ same
    intro document member
    rw [meets_asking_in field]
    simp [isAmong, maxListed]
  case h_4 =>
    refine listedAlike_of_saysAlike readable recast proper negation
      (single (by decide)) ?_ same
    intro document member
    rw [meets_asking_nin field]
    simp [isAmong, maxListed]
  case h_5 =>
    refine listedAlike_of_saysAlike readable recast proper
      Function.injective_id (single (by decide)) ?_ same
    intro document member
    rw [meets_asking_all field]
    simp [hasAll, maxListed]
  case h_6 =>
    -- The empty document has nothing at any path.
    have nothing : Document.getPath? [] path = none := by
      simp [Document.getPath?, Document.follow?_nil_document]
    have both := same [] Document.wellFormed_nil
    rw [meets_asking field (by decide), meets_asking field (by decide)] at both
    simp only [meetsOperator, nothing, Except.ok.injEq] at both
    rw [← recast.truthy_eq_iff]
    simpa using both
  case h_7 => trivial

/-- A condition is asked alike if no document tells apart the filters that
consist of it and of the one it is recast to. -/
theorem conditionAlike_of_saysAlike (field : isOperatorName path = false)
    (single : ∀ operators, operators? operand = some operators →
      ∃ operator asked, operators = [(operator, asked)] ∧
        (operator ∈ ["$in", "$nin", "$all"] →
          ∀ members, asked = .array members → members.length ≤ 1))
    (same : SaysAlike [(path, operand)] [(path, other)]) :
    ConditionAlike operand other := by
  unfold ConditionAlike
  rcases operators?_recast recast with
    ⟨plain, otherPlain⟩ |
    ⟨operators, others, rfl, rfl, read, otherRead, inside⟩
  · have literal : isLiteral (path, operand) = true := by
      simp [isLiteral, field, plain]
    have otherLiteral : isLiteral (path, other) = true := by
      simp [isLiteral, field, otherPlain]
    simp only [plain, otherPlain]
    refine agreedAlike_of_saysAlike readable recast proper
      Function.injective_id (fun document => ?_) (fun document => ?_) same
    · rw [meets_singleton, matchesEntry_of_isLiteral literal, id]
    · rw [meets_singleton, matchesEntry_of_isLiteral otherLiteral, id]
  · simp only [read, otherRead]
    rcases single operators read with ⟨operator, asked, rfl, one⟩
    rcases inside with _ | ⟨here, later⟩
    cases later
    have askedProper : asked.wellFormed = true :=
      (Document.wellFormed_iff.mp proper).2 _ List.mem_cons_self
    exact ⟨askedAlike_of_saysAlike readable here askedProper field one same,
      trivial⟩

end

/-- An elementary filter says what the one that it is recast to says only if
they are asked alike. -/
theorem entriesAlike_of_saysAlike {filter other : Document}
    (elementary : IsElementary filter) (proper : filter.wellFormed = true)
    (recast : RecastEntries filter other) (same : SaysAlike filter other) :
    EntriesAlike filter other := by
  rcases elementary with ⟨path, condition, rfl, readable, field, single⟩
  rcases recast with _ | ⟨here, later⟩
  cases later
  have conditionProper : condition.wellFormed = true :=
    (Document.wellFormed_iff.mp proper).2 _ List.mem_cons_self
  have alike := conditionAlike_of_saysAlike readable here conditionProper field
    single same
  have unlogical : ¬ IsLogical path := by
    rintro (rfl | rfl | rfl) <;> cases field
  simp only [EntriesAlike, and_true]
  cases condition with
  | array items =>
      rcases Value.recast_array_iff.mp here with ⟨others, rfl, -⟩
      simp only [EntryAlike]
      exact ⟨fun logical => absurd logical unlogical, fun _ => alike⟩
  | _ => simpa only [EntryAlike] using alike

end Filter

end DocQuery
