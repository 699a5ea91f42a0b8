import DocQuery.Proofs.Value.Order
import DocQuery.Sorting
import Mathlib.Data.List.Basic

/-!
# Sorted documents

A sort compares documents field by field, each field in its direction and a
missing field below any value.  Documents of which no two hold a string and a
symbol under a path of the sort compare like their keys for all of its fields,
so the comparison orders them like tuples of keys: reflexive, turned around by
a swap, and transitive.

Insertion from the right then sorts such documents stably.  Stability is said
of documents that carry their old positions, for equal documents may stand at
many positions and cannot be told apart otherwise.  By their positions no two
documents tie, so there is no other stable sort of them.
-/

namespace DocQuery

namespace Sorting

/-- A comparison orders all items with a property: every item equals itself, a
swap turns the outcome around, and what does not come after something does not
come after anything behind it. -/
structure Orders {α : Type} (order : α → α → Ordering) (concerned : α → Prop) :
    Prop where
  self {item : α} : concerned item → order item item = .eq
  swap {first second : α} : concerned first → concerned second →
    order second first = (order first second).swap
  trans {first second third : α} : concerned first → concerned second →
    concerned third → order first second ≠ .gt → order second third ≠ .gt →
      order first third ≠ .gt

/-! ## The order of documents -/

/-- The key of a document for one field: nothing if the field is missing, else
the sort key of its value. -/
def fieldKey (path : String) (document : Document) : List Int :=
  match document.getPath? path with
  | some value => value.sortKey
  | none => []

/-- Compare documents by their keys for one field, in either direction. -/
def compareKey (path : String) (descending : Bool) (left right : Document) :
    Ordering :=
  if descending then compareOn (fieldKey path) right left
  else compareOn (fieldKey path) left right

/-- Compare documents by their keys for the fields of a sort. -/
def compareKeys : Document → Document → Document → Ordering
  | [] => fun _ _ => .eq
  | (path, direction) :: rest =>
    compareLex (compareKey path direction.isBelowZero) (compareKeys rest)

instance transCmp_compareKey (path : String) (descending : Bool) :
    Std.TransCmp (compareKey path descending) := by
  cases descending with
  | true =>
      exact inferInstanceAs
        (Std.TransCmp fun left right => compareOn (fieldKey path) right left)
  | false => exact inferInstanceAs (Std.TransCmp (compareOn (fieldKey path)))

instance transCmp_compareKeys (sort : Document) :
    Std.TransCmp (compareKeys sort) := by
  induction sort with
  | nil => exact { eq_swap := rfl, isLE_trans := fun _ _ => rfl }
  | cons entry rest ih =>
      exact inferInstanceAs (Std.TransCmp (compareLex _ (compareKeys rest)))

/-- Fields that do not hold a string and a symbol compare like their keys. -/
theorem compareFields_eq_compareOn {path : String} {left right : Document}
    (unmixed : ∀ value other, left.getPath? path = some value →
      right.getPath? path = some other → value.mixesText other = false) :
    compareFields (left.getPath? path) (right.getPath? path) =
      compareOn (fieldKey path) left right := by
  cases first : left.getPath? path with
  | none =>
      cases second : right.getPath? path <;>
        simp [compareFields, compareOn, fieldKey, first, second, Value.sortKey]
  | some value =>
      cases second : right.getPath? path with
      | none =>
          simp [compareFields, compareOn, fieldKey, first, second,
            Value.sortKey]
      | some other =>
          simp only [compareFields, compareOn, fieldKey, first, second]
          exact Value.compare_eq_compare_sortKey
            (unmixed value other first second)

end Sorting

/-- No path of a sort leads to a symbol. -/
def Document.FreeOfSymbols (document sort : Document) : Prop :=
  ∀ path ∈ sort.keys, ∀ text, document.getPath? path ≠ some (.symbol text)

instance (document sort : Document) : Decidable (document.FreeOfSymbols sort) :=
  decidable_of_iff
    (∀ path ∈ sort.keys, ((document.getPath? path).any fun
      | .symbol _ => true
      | _ => false) = false) <| by
    unfold Document.FreeOfSymbols
    refine forall₂_congr fun path _ => ?_
    cases document.getPath? path with
    | none => simp
    | some value => cases value <;> simp

/-- No path of a sort leads to a string in one document and to a symbol in the
other one. -/
def Document.Unmixed (left right sort : Document) : Prop :=
  ∀ path ∈ sort.keys, ∀ value other, left.getPath? path = some value →
    right.getPath? path = some other → value.mixesText other = false

theorem Document.FreeOfSymbols.unmixed {left right sort : Document}
    (leftPlain : left.FreeOfSymbols sort)
    (rightPlain : right.FreeOfSymbols sort) : left.Unmixed right sort := by
  intro path member value other first second
  unfold Value.mixesText
  split
  · exact absurd second (rightPlain path member _)
  · exact absurd first (leftPlain path member _)
  · rfl

namespace Sorting

theorem compareBy_eq_compareKeys {sort left right : Document}
    (unmixed : left.Unmixed right sort) :
    compareBy left right sort = compareKeys sort left right := by
  induction sort with
  | nil => rfl
  | cons entry rest ih =>
      rcases entry with ⟨path, direction⟩
      have onward := ih fun other member =>
        unmixed other (List.mem_cons_of_mem _ member)
      have turned : compareOn (fieldKey path) right left =
          (compareOn (fieldKey path) left right).swap :=
        Std.OrientedCmp.eq_swap
      simp only [compareBy, compareKeys, compareLex, compareKey, onward,
        turned,
        compareFields_eq_compareOn (unmixed path List.mem_cons_self)]
      generalize compareOn (fieldKey path) left right = outcome
      cases outcome <;> cases direction.isBelowZero <;> rfl

/-- A sort orders documents of which no two hold a string and a symbol under a
path that it looks at. -/
theorem orders_of_unmixed {sort : Document} {concerned : Document → Prop}
    (unmixed : ∀ left, concerned left → ∀ right, concerned right →
      left.Unmixed right (sort.take maxFields)) :
    Orders (fun left right => Document.compareBy left right sort)
      concerned := by
  have keyed {left right : Document} (leftConcerned : concerned left)
      (rightConcerned : concerned right) :
      Document.compareBy left right sort =
        compareKeys (sort.take maxFields) left right :=
    compareBy_eq_compareKeys
      (unmixed left leftConcerned right rightConcerned)
  constructor
  · intro document here
    rw [keyed here here]
    exact Std.ReflCmp.compare_self
  · intro first second firstHere secondHere
    rw [keyed firstHere secondHere, keyed secondHere firstHere]
    exact Std.OrientedCmp.eq_swap
  · intro first second third firstHere secondHere thirdHere before after
    rw [keyed firstHere secondHere] at before
    rw [keyed secondHere thirdHere] at after
    rw [keyed firstHere thirdHere]
    exact Std.TransCmp.le_trans before after

/-- A sort orders the documents that hold no symbol under its paths, also when
it has more fields than are looked at. -/
theorem orders_compareBy (sort : Document) :
    Orders (fun left right => Document.compareBy left right sort)
      (Document.FreeOfSymbols · sort) := by
  refine orders_of_unmixed fun left leftPlain right rightPlain => ?_
  have among {path : String}
      (member : path ∈ Document.keys (sort.take maxFields)) :
      path ∈ sort.keys :=
    List.map_subset _ (List.take_subset _ _) member
  exact fun path member => leftPlain.unmixed rightPlain path (among member)

/-! ## Stable sorting -/

variable {α : Type}

/-- The items of a list, each with the position that it has there, in an order
in which no item comes after a later one, and in which equal items stand as
they stood. -/
structure StablySorted (order : α → α → Ordering) (items : List α)
    (placed : List (α × Nat)) : Prop where
  permuted : placed.Perm items.zipIdx
  ordered : placed.Pairwise fun earlier later =>
    order earlier.1 later.1 ≠ .gt
  stable : placed.Pairwise fun earlier later =>
    order earlier.1 later.1 = .eq → earlier.2 < later.2

/-- A list holds the items of another one, sorted stably. -/
def IsStableSort (order : α → α → Ordering) (items sorted : List α) : Prop :=
  ∃ placed, StablySorted order items placed ∧ sorted = placed.map Prod.fst

/-- An item with its position may stand behind another one. -/
def Follows (order : α → α → Ordering) (later earlier : α × Nat) : Prop :=
  order earlier.1 later.1 ≠ .gt ∧
    (order earlier.1 later.1 = .eq → earlier.2 < later.2)

/-- Insert a numbered item by comparing the items alone. -/
def insertPlaced (order : α → α → Ordering) (item : α × Nat)
    (sorted : List (α × Nat)) : List (α × Nat) :=
  insertLast (fun left right => order left.1 right.1 == .lt) item sorted

/-- The newest item is put behind all that it does not precede, and so behind
all its equals. -/
theorem pairwise_insertPlaced {order : α → α → Ordering}
    {concerned : α → Prop} (orders : Orders order concerned)
    {item : α × Nat} (itemConcerned : concerned item.1)
    {sorted : List (α × Nat)}
    (allConcerned : ∀ placed ∈ sorted, concerned placed.1)
    (newest : ∀ placed ∈ sorted, placed.2 < item.2)
    (follows : sorted.Pairwise (Follows order)) :
    (insertPlaced order item sorted).Pairwise (Follows order) := by
  induction sorted with
  | nil => exact List.pairwise_singleton _ _
  | cons last before ih =>
      rcases List.pairwise_cons.mp follows with ⟨lastFollows, others⟩
      have lastConcerned := allConcerned last List.mem_cons_self
      have turned := orders.swap lastConcerned itemConcerned
      simp only [insertPlaced, insertLast]
      split
      · next precedes =>
        -- The item stands somewhere before the last one.
        have less : order item.1 last.1 = .lt := by simpa using precedes
        have inserted := ih
          (fun placed member => allConcerned placed (by simp [member]))
          (fun placed member => newest placed (by simp [member])) others
        refine List.pairwise_cons.mpr ⟨fun placed member => ?_, inserted⟩
        rcases List.mem_cons.mp ((insertLast_perm _ _ _).subset member) with
          rfl | old
        · simp [Follows, less]
        · exact lastFollows placed old
      · next notBefore =>
        -- The item stands behind the last one, and behind all before that.
        have lastFirst : order last.1 item.1 ≠ .gt := by
          intro greater
          rw [turned] at notBefore
          simp_all
        refine List.pairwise_cons.mpr ⟨fun placed member => ?_, follows⟩
        refine ⟨?_, fun _ => newest placed member⟩
        rcases List.mem_cons.mp member with rfl | old
        · exact lastFirst
        · exact orders.trans (allConcerned placed member) lastConcerned
            itemConcerned (lastFollows placed old).1 lastFirst

/-- Inserting items one after the other, each newer than all before it. -/
theorem pairwise_foldl_insertPlaced {order : α → α → Ordering}
    {concerned : α → Prop} (orders : Orders order concerned)
    {items sorted : List (α × Nat)}
    (itemsConcerned : ∀ item ∈ items, concerned item.1)
    (allConcerned : ∀ placed ∈ sorted, concerned placed.1)
    (increasing : items.Pairwise fun first second => first.2 < second.2)
    (newer : ∀ placed ∈ sorted, ∀ item ∈ items, placed.2 < item.2)
    (follows : sorted.Pairwise (Follows order)) :
    (items.foldl (fun sorted item => insertPlaced order item sorted)
      sorted).Pairwise (Follows order) := by
  induction items generalizing sorted with
  | nil => exact follows
  | cons item rest ih =>
      rcases List.pairwise_cons.mp increasing with ⟨itemOlder, restIncreasing⟩
      have itemConcerned := itemsConcerned item List.mem_cons_self
      have origin {placed : α × Nat}
          (member : placed ∈ insertPlaced order item sorted) :
          placed = item ∨ placed ∈ sorted :=
        List.mem_cons.mp ((insertLast_perm _ _ _).subset member)
      refine ih (fun later member => itemsConcerned later (by simp [member]))
        ?_ restIncreasing ?_ ?_
      · intro placed member
        rcases origin member with rfl | old
        · exact itemConcerned
        · exact allConcerned placed old
      · intro placed member later laterMember
        rcases origin member with rfl | old
        · exact itemOlder later laterMember
        · exact newer placed old later (by simp [laterMember])
      · exact pairwise_insertPlaced orders itemConcerned allConcerned
          (fun placed member => newer placed member item List.mem_cons_self)
          follows

theorem insertLast_map {β : Type} (precedes : β → β → Bool) (image : α → β)
    (item : α) (sorted : List α) :
    insertLast precedes (image item) (sorted.map image) =
      (insertLast (fun left right => precedes (image left) (image right))
        item sorted).map image := by
  induction sorted with
  | nil => rfl
  | cons last before ih =>
      simp only [List.map_cons, insertLast, ih]
      split <;> rfl

/-- Sorting images is sorting by the comparison of the images. -/
theorem insertionSort_map {β : Type} (precedes : β → β → Bool) (image : α → β)
    (items : List α) :
    insertionSort precedes (items.map image) =
      (insertionSort (fun left right => precedes (image left) (image right))
        items).map image := by
  have folded (sorted : List α) :
      (items.map image).foldl
          (fun sorted item => insertLast precedes item sorted)
          (sorted.map image) =
        (items.foldl (fun sorted item => insertLast
          (fun left right => precedes (image left) (image right)) item sorted)
          sorted).map image := by
    induction items generalizing sorted with
    | nil => rfl
    | cons item rest ih =>
        simp only [List.map_cons, List.foldl_cons, insertLast_map, ih]
  rw [insertionSort, insertionSort, List.map_reverse]
  exact congrArg List.reverse (folded [])

theorem pairwise_zipIdx (items : List α) :
    items.zipIdx.Pairwise fun first second => first.2 < second.2 := by
  have positions : (items.zipIdx.map Prod.snd).Pairwise (· < ·) := by
    rw [List.zipIdx_map_snd]
    exact List.pairwise_lt_range'
  exact List.pairwise_map.mp positions

theorem mem_of_mem_zipIdx {items : List α} {placed : α × Nat}
    (member : placed ∈ items.zipIdx) : placed.1 ∈ items := by
  have image := List.mem_map_of_mem (f := Prod.fst) member
  rwa [List.zipIdx_map_fst] at image

/-- Insertion sorts stably what its comparison orders. -/
theorem isStableSort_insertionSort {order : α → α → Ordering}
    {concerned : α → Prop} (orders : Orders order concerned)
    {items : List α} (allConcerned : ∀ item ∈ items, concerned item) :
    IsStableSort order items
      (insertionSort (fun left right => order left right == .lt) items) := by
  have follows : (items.zipIdx.foldl
      (fun sorted item => insertPlaced order item sorted) []).Pairwise
        (Follows order) :=
    pairwise_foldl_insertPlaced orders
      (fun item member => allConcerned item.1 (mem_of_mem_zipIdx member))
      (by simp) (pairwise_zipIdx items) (by simp) List.Pairwise.nil
  refine ⟨insertionSort (fun left right => order left.1 right.1 == .lt)
    items.zipIdx, ⟨insertionSort_perm _ _, ?_, ?_⟩, ?_⟩
  · exact List.pairwise_reverse.mpr (follows.imp And.left)
  · exact List.pairwise_reverse.mpr (follows.imp And.right)
  · have forgotten := insertionSort_map
      (fun left right => order left right == .lt) Prod.fst items.zipIdx
    rwa [List.zipIdx_map_fst] at forgotten

/-- Items that are ordered stand in one way only if they are sorted stably. -/
theorem StablySorted.unique {order : α → α → Ordering}
    {concerned : α → Prop} (orders : Orders order concerned)
    {items : List α} (allConcerned : ∀ item ∈ items, concerned item)
    {first second : List (α × Nat)} (one : StablySorted order items first)
    (other : StablySorted order items second) : first = second := by
  refine List.Perm.eq_of_pairwise ?_ (one.ordered.and one.stable)
    (other.ordered.and other.stable) (one.permuted.trans other.permuted.symm)
  rintro left right leftMember rightMember ⟨forth, earlier⟩ ⟨back, later⟩
  have turned : order right.1 left.1 = (order left.1 right.1).swap :=
    orders.swap
      (allConcerned _ (mem_of_mem_zipIdx (one.permuted.subset leftMember)))
      (allConcerned _ (mem_of_mem_zipIdx (other.permuted.subset rightMember)))
  -- What may stand either way around is equal, and then the positions decide.
  cases outcome : order left.1 right.1 with
  | gt => exact absurd outcome forth
  | lt => exact absurd (by rw [turned, outcome]; rfl) back
  | eq =>
      have before := earlier outcome
      have after := later (by rw [turned, outcome]; rfl)
      omega

end Sorting

/-- Documents that a sort orders are sorted stably. -/
theorem Document.isStableSort_sortAll_of_orders {sort : Document}
    {concerned : Document → Prop} {documents : List Document}
    (orders : Sorting.Orders
      (fun left right => Document.compareBy left right sort) concerned)
    (all : ∀ document ∈ documents, concerned document) :
    Sorting.IsStableSort
      (fun left right => Document.compareBy left right sort) documents
      (Document.sortAll sort documents) := by
  by_cases empty : sort.isEmpty
  · rcases List.isEmpty_iff.mp empty with rfl
    refine ⟨documents.zipIdx, ⟨List.Perm.refl _, ?_, ?_⟩, ?_⟩
    · exact (Sorting.pairwise_zipIdx documents).imp
        fun _ => Ordering.noConfusion
    · exact (Sorting.pairwise_zipIdx documents).imp
        fun older (_ : Ordering.eq = Ordering.eq) => older
    · exact (List.zipIdx_map_fst _ _).symm
  · rw [Document.sortAll, if_neg empty]
    exact Sorting.isStableSort_insertionSort orders all

/-- Documents that hold no symbol under the paths of a sort are sorted
stably. -/
theorem Document.isStableSort_sortAll {sort : Document}
    {documents : List Document}
    (plain : ∀ document ∈ documents, document.FreeOfSymbols sort) :
    Sorting.IsStableSort
      (fun left right => Document.compareBy left right sort) documents
      (Document.sortAll sort documents) :=
  Document.isStableSort_sortAll_of_orders (Sorting.orders_compareBy sort) plain

end DocQuery
