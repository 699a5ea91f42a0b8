import DocQuery.Value
import Mathlib.Data.List.DropRight
import Mathlib.Data.List.Induction
import Mathlib.Data.List.Nodup

/-!
# Statements grouped under keys

Many accumulators keep entries under keys.  A statement about a key changes
its entry where it stands, or adds one at the end when there is none yet.
Such a run comes to the same as grouping all statements first: every key has
one entry, at the place of the first statement about it, made from the
statements about this key alone.  What an entry is made into by one more
statement is all that has to be known of an accumulator; the induction over
the run is done here.
-/

namespace DocQuery.Grouping

variable {Key Statement Entry : Type} [DecidableEq Key]

/-- The statements about one key, in order. -/
def about (key : Key) (statements : List (Key × Statement)) : List Statement :=
  (statements.filter fun statement => statement.1 = key).map Prod.snd

/-- The keys in the order of the first statements about them. -/
def keysOf (statements : List (Key × Statement)) : List Key :=
  (statements.map Prod.fst).eraseDups

/-- One entry for every key, made from the statements about it. -/
def grouped (entry : Key → List Statement → Entry)
    (statements : List (Key × Statement)) : List (Key × Entry) :=
  (keysOf statements).map fun key => (key, entry key (about key statements))

/-- Change the entry of a key where it stands, or add one at the end. -/
def put (key : Key) (change : Option Entry → Entry) :
    List (Key × Entry) → List (Key × Entry)
  | [] => [(key, change none)]
  | (known, old) :: rest =>
    if known = key then (known, change (some old)) :: rest
    else (known, old) :: put key change rest

theorem about_cons (key : Key) (first : Key × Statement)
    (rest : List (Key × Statement)) :
    about key (first :: rest) =
      if first.1 = key then first.2 :: about key rest else about key rest := by
  unfold about
  split <;> simp_all

theorem about_concat (key : Key) (statements : List (Key × Statement))
    (last : Key × Statement) :
    about key (statements ++ [last]) =
      if last.1 = key then about key statements ++ [last.2]
      else about key statements := by
  unfold about
  split <;> simp_all

theorem about_eq_nil_iff {key : Key} {statements : List (Key × Statement)} :
    about key statements = [] ↔ key ∉ keysOf statements := by
  rw [about, List.map_eq_nil_iff, List.filter_eq_nil_iff, keysOf,
    List.mem_eraseDups, List.mem_map]
  constructor
  · rintro silent ⟨statement, member, same⟩
    exact silent statement member (by simpa using same)
  · intro absent statement member same
    exact absent ⟨statement, member, by simpa using same⟩

theorem keysOf_concat (statements : List (Key × Statement))
    (last : Key × Statement) :
    keysOf (statements ++ [last]) =
      if last.1 ∈ keysOf statements then keysOf statements
      else keysOf statements ++ [last.1] := by
  simp only [keysOf, List.map_append, List.map_cons, List.map_nil,
    List.eraseDups_append, List.removeAll, List.mem_eraseDups]
  split
  · next known => simp [known]
  · next fresh => simp [fresh, List.eraseDups_cons]

theorem nodup_keysOf (statements : List (Key × Statement)) :
    (keysOf statements).Nodup := by
  induction statements using List.reverseRecOn with
  | nil => exact List.nodup_nil
  | append_singleton statements last ih =>
      rw [keysOf_concat]
      split
      · exact ih
      · next fresh => exact List.nodup_append.mpr ⟨ih, by simp, by grind⟩

/-- Changing an entry among entries that are made from their keys. -/
theorem put_map {keys : List Key} (distinct : keys.Nodup) (key : Key)
    (change : Option Entry → Entry) (entry : Key → Entry) :
    put key change (keys.map fun known => (known, entry known)) =
      if key ∈ keys then
        keys.map fun known =>
          (known, if known = key then change (some (entry key))
            else entry known)
      else
        (keys.map fun known => (known, entry known)) ++
          [(key, change none)] := by
  induction keys with
  | nil => rfl
  | cons known rest ih =>
      rcases List.nodup_cons.mp distinct with ⟨absent, restDistinct⟩
      simp only [List.map_cons, put, ih restDistinct]
      by_cases same : known = key
      · subst same
        simp only [if_true, List.mem_cons, true_or, List.cons.injEq, true_and]
        refine List.map_congr_left fun other member => ?_
        have different : other ≠ known := fun equal => absent (equal ▸ member)
        simp [different]
      · have different : key ≠ known := Ne.symm same
        simp only [same, if_false, List.mem_cons, different, false_or]
        split <;> rfl

/-- Entries may be looked up by names of their keys when different keys have
different names. -/
theorem put_map_key {Name : Type} [DecidableEq Name] {name : Key → Name}
    (injective : Function.Injective name) (key : Key)
    (change : Option Entry → Entry) (entries : List (Key × Entry)) :
    put (name key) change (entries.map fun (known, old) => (name known, old)) =
      (put key change entries).map fun (known, old) => (name known, old) := by
  induction entries with
  | nil => rfl
  | cons entry rest ih =>
      rcases entry with ⟨known, old⟩
      simp only [List.map_cons, put, injective.eq_iff, ih]
      split <;> rfl

/-- An accumulator that makes entries as one more statement after the other
would have it groups the statements. -/
theorem foldl_put (step : Key → Statement → Option Entry → Entry)
    {entry : Key → List Statement → Entry}
    (first : ∀ key statement, entry key [statement] = step key statement none)
    (later : ∀ key statements statement, statements ≠ [] →
      entry key (statements ++ [statement]) =
        step key statement (some (entry key statements)))
    (statements : List (Key × Statement)) :
    statements.foldl
        (fun entries (key, statement) => put key (step key statement) entries)
        [] =
      grouped entry statements := by
  induction statements using List.reverseRecOn with
  | nil => rfl
  | append_singleton statements last ih =>
      rw [List.foldl_append, ih]
      simp only [List.foldl_cons, List.foldl_nil, grouped,
        put_map (nodup_keysOf statements), keysOf_concat, about_concat]
      split
      · next known =>
        refine List.map_congr_left fun key member => ?_
        by_cases same : key = last.1
        · subst same
          have spoken : about last.1 statements ≠ [] :=
            fun nothing => about_eq_nil_iff.mp nothing known
          simp [later last.1 _ last.2 spoken]
        · simp [same, Ne.symm same]
      · next fresh =>
        have unspoken : about last.1 statements = [] :=
          about_eq_nil_iff.mpr fresh
        rw [List.map_append]
        congr 1
        · refine List.map_congr_left fun key member => ?_
          have different : last.1 ≠ key := fun same => fresh (same ▸ member)
          simp [different]
        · simp [unspoken, first]

theorem map_fst_grouped (entry : Key → List Statement → Entry)
    (statements : List (Key × Statement)) :
    (grouped entry statements).map Prod.fst = keysOf statements := by
  simp [grouped, Function.comp_def]

end DocQuery.Grouping

namespace DocQuery.Document

open Grouping

/-- The fields that were given values one after the other: every field once,
at the place where it was given first, with the value that it was given
last. -/
def lastGiven (fields : List (String × Value)) : Document :=
  grouped (fun _ values => values.getLastD .null) fields

/-- Inserting what is made of the value that a name had before. -/
theorem insert_get?_eq_put (document : Document) (name : String)
    (change : Option Value → Value) :
    document.insert name (change (document.get? name)) =
      put name change document := by
  induction document with
  | nil => rfl
  | cons entry rest ih =>
      rcases entry with ⟨key, old⟩
      simp only [insert, get?, put]
      split
      · rfl
      · rw [ih]

theorem insert_eq_put (document : Document) (name : String) (value : Value) :
    document.insert name value = put name (fun _ => value) document :=
  insert_get?_eq_put document name fun _ => value

/-- Inserting fields into an empty document leaves what was given last. -/
theorem merge_nil (fields : List (String × Value)) :
    merge [] fields = lastGiven fields := by
  simp only [merge, insert_eq_put]
  exact foldl_put (fun _ value _ => value) (fun _ _ => rfl)
    (fun _ _ _ _ => by simp) fields

theorem distinct_lastGiven (fields : List (String × Value)) :
    (lastGiven fields).Distinct := by
  rw [Distinct, keys, lastGiven, map_fst_grouped]
  exact nodup_keysOf fields

theorem merge_append (document first second : Document) :
    document.merge (first ++ second) = (document.merge first).merge second :=
  List.foldl_append

/-- Fields that are given later go over those that were given before. -/
theorem merge_lastGiven (before fields : List (String × Value)) :
    (lastGiven before).merge fields = lastGiven (before ++ fields) := by
  rw [← merge_nil, ← merge_nil, merge_append]

theorem insert_of_not_mem {document : Document} {name : String}
    (absent : name ∉ document.keys) (value : Value) :
    document.insert name value = document ++ [(name, value)] := by
  induction document with
  | nil => rfl
  | cons entry rest ih =>
      rcases entry with ⟨key, old⟩
      simp only [keys, List.map_cons, List.mem_cons, not_or] at absent
      have further := ih absent.2
      simp [insert, Ne.symm absent.1, further]

theorem merge_nil_of_distinct {fields : Document}
    (distinct : fields.Distinct) : merge [] fields = fields := by
  induction fields using List.reverseRecOn with
  | nil => rfl
  | append_singleton fields last ih =>
      rcases last with ⟨name, value⟩
      simp only [Distinct, keys, List.map_append, List.map_cons,
        List.map_nil] at distinct
      rcases List.nodup_append.mp distinct with ⟨before, -, apart⟩
      have absent : name ∉ keys fields :=
        fun member => apart name member name (by simp) rfl
      rw [merge_append, ih before]
      exact insert_of_not_mem absent value

end DocQuery.Document
