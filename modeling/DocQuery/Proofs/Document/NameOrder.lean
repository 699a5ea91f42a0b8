import DocQuery.Value
import Mathlib.Data.List.Sort
import Mathlib.Data.String.Basic

/-!
# Documents in the order of their names

The entries of a document can be put in the order of their names.  If each name
occurs once, the order is strict, and there is only one such order.
-/

namespace DocQuery

/-- Names are in order, each of them once. -/
def Increasing {Item : Type} (named : List (String × Item)) : Prop :=
  named.Pairwise fun earlier later => earlier.1 < later.1

instance {Item : Type} (named : List (String × Item)) :
    Decidable (Increasing named) :=
  inferInstanceAs (Decidable (named.Pairwise _))

/-- Names in order leave one list of the same items. -/
theorem eq_of_perm_of_increasing {Item : Type}
    {first second : List (String × Item)} (same : first.Perm second)
    (left : Increasing first) (right : Increasing second) : first = second :=
  same.eq_of_pairwise
    (fun _ _ _ _ less greater => absurd (less.trans greater) (lt_irrefl _))
    left right

namespace Document

variable {document : Document}

/-- The same entries in the order of their names. -/
def inNameOrder (document : Document) : Document :=
  document.mergeSort fun left right => decide (left.1 ≤ right.1)

theorem inNameOrder_perm (document : Document) :
    document.inNameOrder.Perm document :=
  List.mergeSort_perm _ _

/-- Different names in order are in strict order. -/
theorem increasing_inNameOrder (distinct : document.Distinct) :
    Increasing document.inNameOrder := by
  have trans (first second third : String × Value)
      (before : decide (first.1 ≤ second.1) = true)
      (after : decide (second.1 ≤ third.1) = true) :
      decide (first.1 ≤ third.1) = true :=
    decide_eq_true
      (le_trans (of_decide_eq_true before) (of_decide_eq_true after))
  have total (first second : String × Value) :
      (decide (first.1 ≤ second.1) || decide (second.1 ≤ first.1)) = true := by
    simpa using le_total first.1 second.1
  have sorted : document.inNameOrder.Pairwise fun earlier later =>
      decide (earlier.1 ≤ later.1) = true :=
    List.pairwise_mergeSort trans total document
  have apart : document.inNameOrder.Pairwise fun earlier later =>
      earlier.1 ≠ later.1 := by
    have names : document.inNameOrder.keys.Nodup :=
      ((inNameOrder_perm document).map Prod.fst).nodup_iff.mpr distinct
    exact List.pairwise_map.mp names
  exact (sorted.and apart).imp fun both =>
    lt_of_le_of_ne (of_decide_eq_true both.1) both.2

theorem distinct_of_increasing (increasing : Increasing document) :
    document.Distinct :=
  (List.pairwise_map.mpr (increasing.imp fun less => less.ne) :
    document.keys.Nodup)

/-- The entries of a document have one order of their names. -/
theorem inNameOrder_eq {back : Document} (perm : back.Perm document)
    (increasing : Increasing back) : document.inNameOrder = back :=
  eq_of_perm_of_increasing ((inNameOrder_perm document).trans perm.symm)
    (increasing_inNameOrder
      ((perm.map Prod.fst).nodup_iff.mp (distinct_of_increasing increasing)))
    increasing

/-- Of a document without repeated names a name has one entry. -/
theorem eq_of_mem_of_distinct (distinct : document.Distinct)
    {entry other : String × Value} (member : entry ∈ document)
    (inside : other ∈ document) (same : entry.1 = other.1) : entry = other :=
  List.inj_on_of_nodup_map distinct member inside same

/-- A name that occurs once does not occur before. -/
theorem not_mem_keys_of_distinct_append {before rest : Document}
    {entry : String × Value}
    (distinct : Document.Distinct (before ++ entry :: rest)) :
    entry.1 ∉ before.keys := by
  have names : (before.keys ++ entry.1 :: Document.keys rest).Nodup := by
    simpa [Distinct, keys] using distinct
  exact fun member => (List.nodup_append.mp names).2.2 entry.1 member entry.1
    List.mem_cons_self rfl

/-- A name that stands neither before an entry nor there comes after it. -/
theorem lt_of_mem_keys_append {before rest : Document}
    {entry : String × Value} {name : String}
    (increasing : Increasing (before ++ entry :: rest))
    (member : name ∈ Document.keys (before ++ entry :: rest))
    (absent : name ∉ before.keys) (different : entry.1 ≠ name) :
    entry.1 < name := by
  rcases List.mem_map.mp member with ⟨known, inside, rfl⟩
  rcases List.mem_append.mp inside with early | here
  · exact absurd (List.mem_map_of_mem early) absent
  · rcases List.mem_cons.mp here with rfl | later
    · exact absurd rfl different
    · exact List.rel_of_pairwise_cons
        (List.pairwise_append.mp increasing).2.1 later

end Document

end DocQuery
