import DocQuery.Proofs.Document.NameOrder
import DocQuery.Proofs.Document.Nesting
import DocQuery.Proofs.Document.Removal
import DocQuery.Proofs.Sorting.Lexicographic
import Mathlib.Data.String.Basic

/-!
# Sorts that order alike

Of a sort only the readable paths among its first eight fields matter.  Two
such lists of fields, one of them in the order of its names, order all
documents alike only if they are the same: where they first differ there are
documents that tie by all the fields before and that the next two fields put in
opposite orders.

The documents are made for this purpose.  Documents under a path that other
paths go through tie, and so do documents that have nothing under a path; so
two documents can be told apart at a path of one's choice only.  This fails for
a path and another one that goes through it.  There one document has nothing
behind the first path and the other one has, and then all fields on the way
from the first to the second differ too; they come behind the first path in the
order of names.
-/

namespace DocQuery

namespace Document

variable {names others : List String} {left right document : Document}
  {first second value : Value}

/-! ## Documents that tie at some names -/

/-- What stands at some names does not tell two documents apart. -/
def Level (names : List String) (left right : Document) : Prop :=
  Sorting.compareFields (left.follow? names) (right.follow? names) = .eq

theorem level_nil (left right : Document) : Level [] left right := rfl

theorem level_empty (names : List String) : Level names [] [] := by
  rw [Level, follow?_nil_document]
  rfl

/-- Nothing stands behind a value that is no document. -/
theorem follow?_behind (scalar : value.asDocument? = none)
    (name next : String) (rest : List String) (document : Document) :
    follow? (name :: next :: rest) (document.insert name value) = none := by
  simp only [follow?, get?_insert_self]
  cases value with
  | document entries => cases scalar
  | _ => rfl

/-- Two documents that tie at some names tie there also after writing scalars
at other names. -/
theorem level_place (firstScalar : first.asDocument? = none)
    (secondScalar : second.asDocument? = none) (different : others ≠ names)
    (level : Level others left right) :
    Level others (place names first left) (place names second right) := by
  induction names generalizing others left right with
  | nil => exact level
  | cons name rest ih =>
      cases others with
      | nil => exact level_nil _ _
      | cons other further =>
          by_cases same : name = other
          · subst same
            cases rest with
            | nil =>
                cases further with
                | nil => exact absurd rfl different
                | cons next more =>
                    simp only [Level, place, follow?_behind firstScalar,
                      follow?_behind secondScalar]
                    rfl
            | cons next more =>
                cases further with
                | nil => simp [Level, place, follow?, Sorting.compareFields,
                    Value.compare, Value.isNumber, Value.kindRank]
                | cons step steps =>
                    simp only [Level, follow?_cons_cons] at level
                    simp only [Level, place, follow?_cons_cons,
                      subdocument_insert_self]
                    exact ih (fun whole => different
                      (congrArg (name :: ·) whole)) level
          · unfold Level
            rw [follow?_cons_congr (get?_place_ne same rest first left),
              follow?_cons_congr (get?_place_ne same rest second right)]
            exact level

/-- What is written at names is not found at names that do not lead there. -/
theorem follow?_place_of_not_prefix (scalar : value.asDocument? = none)
    (aside : ¬others <+: names) :
    follow? others (place names value []) = none := by
  induction names generalizing others with
  | nil => exact follow?_nil_document others
  | cons name rest ih =>
      cases others with
      | nil => exact absurd List.nil_prefix aside
      | cons other further =>
          by_cases same : name = other
          · subst same
            cases further with
            | nil => exact absurd (List.prefix_append [name] rest) aside
            | cons step steps =>
                cases rest with
                | nil => exact follow?_behind scalar name step steps []
                | cons next more =>
                    rw [place, follow?_cons_cons, subdocument_insert_self]
                    exact ih fun initial => aside
                      ((List.prefix_cons_inj name).mpr initial)
          · exact follow?_cons_of_get?_eq_none
              (get?_place_ne same rest value []) further

/-- A document with something behind some names, and one with a scalar there,
tie but at these names and on the way from them. -/
theorem level_branch (firstScalar : first.asDocument? = none)
    (secondScalar : second.asDocument? = none) {behind : List String}
    (aside : ¬(names <+: others ∧ others <+: names ++ behind)) :
    Level others (place (names ++ behind) first [])
      (place names second []) := by
  induction names generalizing others with
  | nil =>
      have missing : follow? others (place behind first []) = none :=
        follow?_place_of_not_prefix firstScalar
          fun initial => aside ⟨List.nil_prefix, initial⟩
      simp only [Level, List.nil_append, missing, place, follow?_nil_document]
      rfl
  | cons name rest ih =>
      cases others with
      | nil => exact level_nil _ _
      | cons other further =>
          by_cases same : name = other
          · subst same
            have onward : ¬(rest <+: further ∧ further <+: rest ++ behind) :=
              fun both => aside ⟨(List.prefix_cons_inj name).mpr both.1,
                (List.prefix_cons_inj name).mpr both.2⟩
            cases rest with
            | nil =>
                have astray : ¬further <+: behind :=
                  fun initial => onward ⟨List.nil_prefix, initial⟩
                cases further with
                | nil => exact absurd List.nil_prefix astray
                | cons step steps =>
                    have missing := follow?_place_of_not_prefix firstScalar
                      fun initial => astray
                        ((List.prefix_cons_inj name).mp initial)
                    simp only [Level, List.cons_append, List.nil_append,
                      missing, place, follow?_behind secondScalar]
                    rfl
            | cons next more =>
                cases further with
                | nil => simp [Level, place, follow?, Sorting.compareFields,
                    Value.compare, Value.isNumber, Value.kindRank]
                | cons step steps =>
                    simp only [Level, List.cons_append, place,
                      follow?_cons_cons, subdocument_insert_self]
                    exact ih onward
          · simp only [Level, List.cons_append,
              follow?_cons_of_get?_eq_none (get?_place_ne same _ _ [])]
            rfl

/-- On the way to what is written stands a document. -/
theorem exists_document_of_place (given : names ≠ []) (behind : String)
    (further : List String) (value : Value) (document : Document) :
    ∃ entries, follow? names
        (place (names ++ behind :: further) value document) =
      some (.document entries) := by
  induction names generalizing document with
  | nil => exact absurd rfl given
  | cons name rest ih =>
      cases rest with
      | nil => exact ⟨_, get?_insert_self ..⟩
      | cons next more =>
          simp only [List.cons_append, place, follow?_cons_cons,
            subdocument_insert_self]
          exact ih (List.cons_ne_nil _ _) _

/-- Nothing stands behind a scalar that is written. -/
theorem follow?_behind_place (scalar : value.asDocument? = none)
    (given : names ≠ []) (behind : String) (further : List String)
    (document : Document) :
    follow? (names ++ behind :: further) (place names value document) =
      none := by
  induction names generalizing document with
  | nil => exact absurd rfl given
  | cons name rest ih =>
      cases rest with
      | nil => exact follow?_behind scalar name behind further document
      | cons next more =>
          simp only [List.cons_append, place, follow?_cons_cons,
            subdocument_insert_self]
          exact ih (List.cons_ne_nil _ _) _

end Document

/-! ## Paths in the order of names -/

theorem pathNames_injective : Function.Injective pathNames := by
  intro left right same
  rw [← String.toList_inj, toList_eq_join, toList_eq_join, same]

/-- A path comes before those that go on behind it. -/
theorem lt_of_prefix_pathNames {path other : String}
    (initial : pathNames path <+: pathNames other) (different : path ≠ other) :
    path < other := by
  have characters : path.toList <+: other.toList := by
    rw [toList_eq_join path, toList_eq_join other]
    exact join_prefix_join (initial.map _)
  refine lt_of_le_of_ne (not_lt.mp fun less => ?_) different
  exact characters.le (String.lt_iff_toList_lt.mp less)

namespace Sorting

variable {left right : Document} {path : String} {entry : String × Value}

/-! ## Documents that one or two fields tell apart -/

theorem ties_of_level (level : Document.Level (pathNames path) left right) :
    Ties path left right := by
  rw [← compareFields_eq_eq_iff]
  simp only [Document.getPath?]
  split
  · exact level
  · rfl

/-- Some documents are told apart by one field and tie by all others. -/
theorem exists_told_apart (readable : isReadablePath path = true) :
    ∃ left right : Document,
      left.wellFormed = true ∧ right.wellFormed = true ∧
      compareFields (left.getPath? path) (right.getPath? path) = .lt ∧
        ∀ other, other ≠ path → Ties other left right := by
  refine ⟨Document.setPath [] path (.ofInt 1),
    Document.setPath [] path (.ofInt 2),
    Document.wellFormed_setPath rfl path rfl,
    Document.wellFormed_setPath rfl path rfl, ?_,
    fun other different => ties_of_level ?_⟩
  · rw [Document.getPath?_setPath_self readable,
      Document.getPath?_setPath_self readable]
    decide +kernel
  · exact Document.level_place rfl rfl
      (fun same => different (pathNames_injective same))
      (Document.level_empty _)

/-- A value without parts. -/
def IsLeaf (value : Value) : Prop :=
  value.asDocument? = none ∧ value.wellFormed = true

theorem scalars_told_apart (turned : Bool) :
    ∃ lower upper : Value, IsLeaf lower ∧ IsLeaf upper ∧
      compareFields (some lower) (some upper) =
        if turned then Ordering.lt.swap else .lt := by
  cases turned with
  | false =>
      exact ⟨.ofInt 1, .ofInt 2, ⟨rfl, rfl⟩, ⟨rfl, rfl⟩, by decide +kernel⟩
  | true =>
      exact ⟨.ofInt 2, .ofInt 1, ⟨rfl, rfl⟩, ⟨rfl, rfl⟩, by decide +kernel⟩

theorem scalar_told_apart (entries : Document) (turned : Bool) :
    ∃ scalar : Value, IsLeaf scalar ∧
      compareFields (some (.document entries)) (some scalar) =
        if turned then Ordering.gt.swap else .gt := by
  cases turned with
  | false =>
      exact ⟨.null, ⟨rfl, rfl⟩, Value.compare_of_kindRank_ne (nomatch ·)⟩
  | true =>
      exact ⟨.maxKey, ⟨rfl, rfl⟩, Value.compare_of_kindRank_ne (nomatch ·)⟩

/-- Two fields put two documents in the same order, or in opposite orders if
one of them is turned around, and by all fields that do not stand on the way
from the second to the first the documents tie. -/
structure Opposed (first second : String) (turned : Bool) (order : Ordering)
    (left right : Document) : Prop where
  decided : order ≠ .eq
  leftProper : left.wellFormed = true
  rightProper : right.wellFormed = true
  byFirst : compareFields (left.getPath? first) (right.getPath? first) = order
  bySecond : compareFields (left.getPath? second) (right.getPath? second) =
    if turned then order.swap else order
  ties {other : String} : other ≠ first → other ≠ second →
    ¬(pathNames second <+: pathNames other ∧
      pathNames other <+: pathNames first) → Ties other left right

variable {first second : String}

/-- If the first field goes on behind the second, one document has a value at
the first field, and the other one a scalar at the second, which is less or
greater than a document. -/
theorem exists_opposed_behind (firstReadable : isReadablePath first = true)
    (secondReadable : isReadablePath second = true)
    (initial : pathNames second <+: pathNames first)
    (notBehind : ¬pathNames first <+: pathNames second) (turned : Bool) :
    ∃ left right, Opposed first second turned .gt left right := by
  rcases initial with ⟨behind, whole⟩
  have given := pathNames_ne_nil second
  cases behind with
  | nil =>
      rw [List.append_nil] at whole
      exact absurd (whole ▸ List.prefix_refl _) notBehind
  | cons step steps =>
      rcases Document.exists_document_of_place given step steps (.ofInt 1) []
        with ⟨entries, inside⟩
      rcases scalar_told_apart entries turned with ⟨scalar, leaf, told⟩
      refine ⟨Document.setPath [] first (.ofInt 1),
        Document.setPath [] second scalar, ?_⟩
      constructor
      case decided => decide
      case leftProper => exact Document.wellFormed_setPath rfl first rfl
      case rightProper => exact Document.wellFormed_setPath rfl second leaf.2
      case byFirst =>
        rw [Document.getPath?_setPath_self firstReadable, Document.getPath?,
          if_pos firstReadable, Document.setPath, ← whole,
          Document.follow?_behind_place leaf.1 given]
        rfl
      case bySecond =>
        rw [Document.getPath?_setPath_self secondReadable, Document.getPath?,
          if_pos secondReadable, Document.setPath, ← whole, inside, told]
      case ties =>
        intro other _ _ aside
        apply ties_of_level
        rw [← whole] at aside
        rw [Document.setPath, ← whole]
        exact Document.level_branch rfl leaf.1 aside

/-- If neither field goes on behind the other, both documents have a value at
each of them. -/
theorem exists_opposed_aside (firstReadable : isReadablePath first = true)
    (secondReadable : isReadablePath second = true)
    (apart : PathsApart second first) (turned : Bool) :
    ∃ left right, Opposed first second turned .lt left right := by
  rcases scalars_told_apart turned with
    ⟨lower, upper, lowerLeaf, upperLeaf, told⟩
  refine ⟨(Document.setPath [] first (.ofInt 1)).setPath second lower,
    (Document.setPath [] first (.ofInt 2)).setPath second upper, ?_⟩
  constructor
  case decided => decide
  case leftProper =>
    exact Document.wellFormed_setPath
      (Document.wellFormed_setPath rfl first rfl) second lowerLeaf.2
  case rightProper =>
    exact Document.wellFormed_setPath
      (Document.wellFormed_setPath rfl first rfl) second upperLeaf.2
  case byFirst =>
    rw [Document.getPath?_setPath_of_apart apart,
      Document.getPath?_setPath_of_apart apart,
      Document.getPath?_setPath_self firstReadable,
      Document.getPath?_setPath_self firstReadable]
    decide +kernel
  case bySecond =>
    rw [Document.getPath?_setPath_self secondReadable,
      Document.getPath?_setPath_self secondReadable, told]
  case ties =>
    intro other notFirst notSecond _
    apply ties_of_level
    refine Document.level_place lowerLeaf.1 upperLeaf.1
      (fun same => notSecond (pathNames_injective same)) ?_
    exact Document.level_place rfl rfl
      (fun same => notFirst (pathNames_injective same))
      (Document.level_empty _)

/-- Two fields, the first of which does not stand on the way to the second, can
be told to agree or to disagree about two documents. -/
theorem exists_opposed (firstReadable : isReadablePath first = true)
    (secondReadable : isReadablePath second = true)
    (notBehind : ¬pathNames first <+: pathNames second) (turned : Bool) :
    ∃ order left right, Opposed first second turned order left right := by
  by_cases initial : pathNames second <+: pathNames first
  · exact ⟨_, exists_opposed_behind firstReadable secondReadable initial
      notBehind turned⟩
  · exact ⟨_, exists_opposed_aside firstReadable secondReadable
      ⟨initial, notBehind⟩ turned⟩

/-! ## The fields of a sort that matter -/

/-- The entries of a sort that it looks at and that can be read. -/
def fieldsOf (sort : Document) : Document :=
  (sort.take maxFields).filter fun entry => isReadablePath entry.1

theorem compareEntry_of_ties (ties : Ties entry.1 left right) :
    compareEntry entry left right = .eq :=
  compareEntry_eq_eq_iff.mpr ties

theorem ties_of_not_readable (unreadable : isReadablePath path = false)
    (left right : Document) : Ties path left right := by
  rw [← compareFields_eq_eq_iff]
  simp [Document.getPath?, unreadable, compareFields]

/-- A path that cannot be read does not matter. -/
theorem compareBy_filter (sort left right : Document) :
    compareBy left right
        (sort.filter fun entry => isReadablePath entry.1) =
      compareBy left right sort := by
  induction sort with
  | nil => rfl
  | cons entry rest ih =>
      rw [compareBy_cons, ← ih]
      cases readable : isReadablePath entry.1 with
      | true => rw [List.filter_cons, readable, if_pos rfl, compareBy_cons]
      | false =>
          rw [List.filter_cons_of_neg (by simp [readable]),
            compareEntry_of_ties (ties_of_not_readable readable left right)]
          rfl

theorem compare_eq_compareBy_fieldsOf (sort left right : Document) :
    left.compareBy right sort = compareBy left right (fieldsOf sort) :=
  (compareBy_filter (sort.take maxFields) left right).symm

/-- Fields by which two documents tie are passed over. -/
theorem compareBy_append_of_ties {before : Document}
    (ties : ∀ entry ∈ before, Ties entry.1 left right) (rest : Document) :
    compareBy left right (before ++ rest) = compareBy left right rest := by
  induction before with
  | nil => rfl
  | cons entry others ih =>
      rw [List.cons_append, compareBy_cons,
        compareEntry_of_ties (ties entry List.mem_cons_self),
        ih fun other member => ties other (List.mem_cons_of_mem _ member)]
      rfl

/-- The first field by which two documents do not tie decides. -/
theorem compareBy_of_decided {before : Document}
    (ties : ∀ entry ∈ before, Ties entry.1 left right)
    (decided : compareEntry entry left right ≠ .eq) (rest : Document) :
    compareBy left right (before ++ entry :: rest) =
      compareEntry entry left right := by
  rw [compareBy_append_of_ties ties, compareBy_cons]
  cases order : compareEntry entry left right with
  | eq => exact absurd order decided
  | lt | gt => rfl

theorem compareBy_of_ties {sort : Document}
    (ties : ∀ entry ∈ sort, Ties entry.1 left right) :
    compareBy left right sort = .eq := by
  have passed := compareBy_append_of_ties ties []
  rwa [List.append_nil] at passed

/-! ## Sorts that order alike -/

/-- Two sorts order all well-formed documents alike. -/
def OrderAlike (sort other : Document) : Prop :=
  ∀ left right : Document, left.wellFormed = true → right.wellFormed = true →
    compareBy left right sort = compareBy left right other

variable {sort other before : Document} {second : String × Value}

theorem OrderAlike.symm (alike : OrderAlike sort other) :
    OrderAlike other sort :=
  fun left right leftProper rightProper =>
    (alike left right leftProper rightProper).symm

/-- A sort that orders alike has all fields. -/
theorem OrderAlike.mem_keys (alike : OrderAlike sort other)
    (member : entry ∈ other) (readable : isReadablePath entry.1 = true) :
    entry.1 ∈ sort.keys := by
  by_contra absent
  rcases exists_told_apart readable with
    ⟨left, right, leftProper, rightProper, apart, others⟩
  have tied : compareBy left right sort = .eq :=
    compareBy_of_ties fun known inside => others known.1 fun same =>
      absent (same ▸ List.mem_map_of_mem inside)
  have ties : Ties entry.1 left right :=
    (lexicographic_compareBy other left right).level.mp
      ((alike left right leftProper rightProper).symm.trans tied) entry member
  rw [compareFields_eq_eq_iff.mpr ties] at apart
  cases apart

/-- Two fields that agree about two documents, or disagree about them if their
directions do so too, put them in opposite orders. -/
theorem Opposed.compareEntry_ne {order : Ordering}
    (opposed : Opposed entry.1 second.1
      (isDescending entry.2 == isDescending second.2) order left right) :
    compareEntry entry left right ≠ .eq ∧
      compareEntry second left right ≠ .eq ∧
      compareEntry second left right ≠ compareEntry entry left right := by
  have decided := opposed.decided
  simp only [compareEntry, opposed.byFirst, opposed.bySecond]
  cases order with
  | eq => exact absurd rfl decided
  | lt | gt =>
      cases isDescending entry.2 <;> cases isDescending second.2 <;> decide

/-- A field that comes later in the order of names is not the next one of a
sort that orders alike: there are documents that tie by all fields before and
that the two fields put in opposite orders. -/
theorem not_orderAlike_of_lt {rest others : Document}
    (increasing : Increasing (before ++ second :: rest))
    (fresh : entry.1 ∉ before.keys)
    (firstReadable : isReadablePath entry.1 = true)
    (secondReadable : isReadablePath second.1 = true)
    (less : second.1 < entry.1) :
    ¬OrderAlike (before ++ second :: rest) (before ++ entry :: others) := by
  intro alike
  have notBehind : ¬pathNames entry.1 <+: pathNames second.1 :=
    fun initial => absurd (lt_of_prefix_pathNames initial less.ne')
      less.asymm
  rcases exists_opposed firstReadable secondReadable notBehind
      (isDescending entry.2 == isDescending second.2) with
    ⟨order, left, right, opposed⟩
  have ties : ∀ known ∈ before, Ties known.1 left right := by
    intro known member
    have earlier : known.1 < second.1 :=
      (List.pairwise_append.mp increasing).2.2 known member second
        List.mem_cons_self
    refine opposed.ties (fun same => fresh
      (same ▸ List.mem_map_of_mem member)) earlier.ne fun between => ?_
    exact absurd (lt_of_prefix_pathNames between.1 earlier.ne') earlier.asymm
  rcases opposed.compareEntry_ne with ⟨byEntry, bySecond, opposite⟩
  have same := alike left right opposed.leftProper opposed.rightProper
  rw [compareBy_of_decided ties bySecond,
    compareBy_of_decided ties byEntry] at same
  exact opposite same

/-- Fields in the order of their names order alike only with themselves. -/
theorem eq_of_orderAlike_behind {rest others : Document}
    (increasing : Increasing (before ++ rest))
    (distinct : Document.Distinct (before ++ others))
    (restReadable : ∀ known ∈ rest, isReadablePath known.1 = true)
    (readable : ∀ known ∈ others, isReadablePath known.1 = true)
    (agree : ∀ known ∈ rest, ∀ given ∈ others,
      known.1 = given.1 → known = given)
    (alike : OrderAlike (before ++ rest) (before ++ others)) :
    rest = others := by
  -- What both begin with moves to the fields before.
  induction rest generalizing before others with
  | nil =>
      cases others with
      | nil => rfl
      | cons entry more =>
          have known : entry.1 ∈ (before ++ []).keys :=
            alike.mem_keys (by simp) (readable entry List.mem_cons_self)
          rw [List.append_nil] at known
          exact absurd known (Document.not_mem_keys_of_distinct_append distinct)
  | cons second rest ih =>
      have fresh : second.1 ∉ before.keys :=
        Document.not_mem_keys_of_distinct_append
          (Document.distinct_of_increasing increasing)
      cases others with
      | nil =>
          have known : second.1 ∈ (before ++ []).keys :=
            alike.symm.mem_keys (by simp)
              (restReadable second List.mem_cons_self)
          rw [List.append_nil] at known
          exact absurd known fresh
      | cons entry more =>
          have firstReadable := readable entry List.mem_cons_self
          have absent : entry.1 ∉ before.keys :=
            Document.not_mem_keys_of_distinct_append distinct
          by_cases same : second.1 = entry.1
          · have equal : second = entry := agree second List.mem_cons_self
              entry List.mem_cons_self same
            subst equal
            congr 1
            rw [List.append_cons before second rest] at increasing alike
            rw [List.append_cons before second more] at distinct alike
            exact ih increasing distinct
              (fun known member => restReadable known
                (List.mem_cons_of_mem _ member))
              (fun known member => readable known
                (List.mem_cons_of_mem _ member))
              (fun known member given inside => agree known
                (List.mem_cons_of_mem _ member) given
                (List.mem_cons_of_mem _ inside))
              alike
          · have less : second.1 < entry.1 :=
              Document.lt_of_mem_keys_append increasing
                (alike.mem_keys (by simp) firstReadable) absent same
            exact absurd alike (not_orderAlike_of_lt increasing absent
              firstReadable (restReadable second List.mem_cons_self) less)

theorem mem_of_mem_fieldsOf (member : entry ∈ fieldsOf sort) :
    entry ∈ sort ∧ isReadablePath entry.1 = true :=
  ⟨List.mem_of_mem_take (List.mem_filter.mp member).1,
    (List.mem_filter.mp member).2⟩

theorem fieldsOf_sublist (sort : Document) :
    (fieldsOf sort).Sublist sort :=
  List.filter_sublist.trans (List.take_sublist maxFields sort)

/-- A sort that is put in the order of its names orders alike exactly if the
fields that it looks at stay the same, in the same order. -/
theorem orderAlike_inNameOrder_iff (distinct : sort.Distinct) :
    OrderAlike (fieldsOf sort.inNameOrder) (fieldsOf sort) ↔
      fieldsOf sort.inNameOrder = fieldsOf sort := by
  constructor
  · have increasing : Increasing ([] ++ fieldsOf sort.inNameOrder) :=
      (Document.increasing_inNameOrder distinct).sublist (fieldsOf_sublist _)
    refine eq_of_orderAlike_behind increasing
      (distinct.sublist ((fieldsOf_sublist sort).map Prod.fst))
      (fun known member => (mem_of_mem_fieldsOf member).2)
      (fun known member => (mem_of_mem_fieldsOf member).2) ?_
    intro known member given inside same
    exact Document.eq_of_mem_of_distinct distinct
      ((Document.inNameOrder_perm sort).subset (mem_of_mem_fieldsOf member).1)
      (mem_of_mem_fieldsOf inside).1 same
  · intro same left right _ _
    rw [same]

end Sorting

end DocQuery
