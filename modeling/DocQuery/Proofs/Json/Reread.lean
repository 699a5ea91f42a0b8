import DocQuery.Proofs.Document.NameOrder
import DocQuery.Proofs.Json.Simple

/-!
# Documents read back from their texts

A simple document that is written and read back has the same entries, but in the
order of their names: reading collects the members of an object in a list
sorted by name, and only this list is turned into a document.
-/

namespace DocQuery

namespace Json

variable {members sorted : List (String × Json)}

/-! ## Sorted members -/

/-- A new member is put among the others. -/
theorem putMember_perm {name : String} (value : Json)
    (absent : ∀ member ∈ sorted, member.1 ≠ name) :
    (putMember name value sorted).Perm ((name, value) :: sorted) := by
  induction sorted with
  | nil => exact List.Perm.refl _
  | cons member rest ih =>
      rcases member with ⟨known, old⟩
      have different : known ≠ name := absent _ List.mem_cons_self
      rw [putMember, if_neg different]
      split
      · exact ((ih fun other inside =>
          absent other (List.mem_cons_of_mem _ inside)).cons _).trans
            (List.Perm.swap ..)
      · exact List.Perm.refl _

/-- It is put where its name belongs. -/
theorem increasing_putMember {name : String} (value : Json)
    (absent : ∀ member ∈ sorted, member.1 ≠ name)
    (increasing : Increasing sorted) :
    Increasing (putMember name value sorted) := by
  induction sorted with
  | nil => exact List.pairwise_singleton _ _
  | cons member rest ih =>
      rcases member with ⟨known, old⟩
      rcases List.pairwise_cons.mp increasing with ⟨first, others⟩
      have different : known ≠ name := absent _ List.mem_cons_self
      have absentLater (other : String × Json) (inside : other ∈ rest) :
          other.1 ≠ name :=
        absent other (List.mem_cons_of_mem _ inside)
      rw [putMember, if_neg different]
      split
      · next less =>
          refine List.pairwise_cons.mpr ⟨fun later inside => ?_,
            ih absentLater others⟩
          rcases List.mem_cons.mp
            ((putMember_perm value absentLater).subset inside) with
            rfl | old
          · exact less
          · exact first later old
      · next notLess =>
          have less : name < known :=
            lt_of_le_of_ne (not_lt.mp notLess) different.symm
          refine List.pairwise_cons.mpr ⟨fun later inside => ?_, increasing⟩
          rcases List.mem_cons.mp inside with rfl | old
          · exact less
          · exact less.trans (first later old)

/-- Members with different names are collected in the order of their names. -/
theorem membersInOrder_spec {sorted : List (String × Json)}
    (members : List (String × Json))
    (scalar : ∀ member ∈ members, member.2.inOrder = member.2)
    (distinct : ((sorted ++ members).map Prod.fst).Nodup)
    (increasing : Increasing sorted) :
    (membersInOrder sorted members).Perm (sorted ++ members) ∧
      Increasing (membersInOrder sorted members) := by
  induction members generalizing sorted with
  | nil =>
      rw [List.append_nil]
      exact ⟨List.Perm.refl _, increasing⟩
  | cons member rest ih =>
      rcases member with ⟨name, value⟩
      have absent (other : String × Json) (inside : other ∈ sorted) :
          other.1 ≠ name := by
        rw [List.map_append, List.nodup_append] at distinct
        exact distinct.2.2 other.1 (List.mem_map_of_mem inside) name
          (by simp)
      have put := putMember_perm value absent
      have moved : (putMember name value sorted ++ rest).Perm
          (sorted ++ (name, value) :: rest) :=
        (put.append_right rest).trans List.perm_middle.symm
      rw [membersInOrder, scalar _ List.mem_cons_self]
      rcases ih (fun other inside =>
          scalar other (List.mem_cons_of_mem _ inside))
        ((moved.map Prod.fst).nodup_iff.mpr distinct)
        (increasing_putMember value absent increasing) with ⟨collected, order⟩
      exact ⟨collected.trans moved, order⟩

/-! ## Documents -/

theorem inOrder_ofSimple (value : Value) :
    (ofSimple value).inOrder = ofSimple value := by
  cases value with
  | int32 number =>
      rw [ofSimple]
      split <;> rfl
  | _ => rfl

/-- The value that is read is the one that was written. -/
theorem toValue?_ofSimple {value : Value} (simple : value.isSimple = true) :
    (ofSimple value).toValue? = some value := by
  cases value with
  | string | boolean => rfl
  | int32 number =>
      have bounds := number.toInt_lt
      have lower := number.le_toInt
      rw [ofSimple]
      split
      · have inRange : Number.inInt32Range number.toInt = true := by
          simp only [Number.inInt32Range, decide_eq_true_eq]
          omega
        simp only [toValue?, numberValue?, inRange, if_true,
          Int32.ofInt_toInt]
      · next positive =>
          have small : number.toInt.toNat < 0x80000000 := by omega
          have same : (number.toInt.toNat : Int) = number.toInt := by omega
          simp only [toValue?, numberValue?, if_pos small, same,
            Int32.ofInt_toInt]
  | _ => cases simple

theorem toEntries?_map_namedOf {document : Document}
    (simple : document.Simple) :
    toEntries? (document.map namedOf) = some document := by
  induction document with
  | nil => rfl
  | cons entry rest ih =>
      rw [List.map_cons, namedOf, toEntries?,
        toValue?_ofSimple (simple entry List.mem_cons_self),
        ih fun other member => simple other (List.mem_cons_of_mem _ member)]
      rfl

theorem membersInOrder_map_namedOf {document : Document}
    (distinct : document.Distinct) :
    membersInOrder [] (document.map namedOf) =
      document.inNameOrder.map namedOf := by
  have names : ([] ++ document.map namedOf).map Prod.fst = document.keys := by
    rw [List.nil_append, List.map_map]
    rfl
  rcases membersInOrder_spec (document.map namedOf)
    (fun member inside => by
      rcases List.mem_map.mp inside with ⟨entry, -, rfl⟩
      exact inOrder_ofSimple entry.2)
    (names ▸ distinct) List.Pairwise.nil with ⟨collected, order⟩
  refine eq_of_perm_of_increasing
    (collected.trans ((document.inNameOrder_perm).map namedOf).symm) order ?_
  exact List.pairwise_map.mpr (Document.increasing_inNameOrder distinct)

/-- A simple document that is written and read back is put in the order of its
names. -/
theorem readDocument_writeDocument {document : Document}
    (simple : document.Simple) (distinct : document.Distinct) :
    readDocument (writeDocument document) = .ok document.inNameOrder := by
  have simpleOrder : document.inNameOrder.Simple := fun entry member =>
    simple entry ((document.inNameOrder_perm).subset member)
  simp only [readDocument, parse?_writeDocument simple, inOrder,
    membersInOrder_map_namedOf distinct, toEntries?_map_namedOf simpleOrder]

end Json

end DocQuery
