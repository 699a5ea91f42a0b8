import DocQuery.Proofs.Json.Number
import DocQuery.Proofs.Json.Quoted
import DocQuery.Json.Sorted

/-!
# Simple documents in JSON texts

A document of strings, truth values and 32-bit integers is written as an object
with a member for each entry, in order.  Reading takes the members one after
the other, so that the text has the value of this object; only then are the
members put in the order of their names.
-/

namespace DocQuery

/-- A string, a truth value or a 32-bit integer. -/
def Value.isSimple : Value → Bool
  | .string _ | .boolean _ | .int32 _ => true
  | _ => false

/-- All values are simple. -/
def Document.Simple (document : Document) : Prop :=
  ∀ entry ∈ document, entry.2.isSimple = true

instance (document : Document) : Decidable document.Simple :=
  inferInstanceAs (Decidable (∀ entry ∈ document, _ = true))

namespace Json

open Text

variable {value : Value} {rest : List Char}

/-! ## One value -/

/-- The value of the text of a simple value. -/
def ofSimple : Value → Json
  | .string text => .string text
  | .boolean flag => .boolean flag
  | .int32 number =>
    if number.toInt < 0 then .negative number.toInt
    else .natural number.toInt.toNat
  | _ => .null

theorem toList_writeString (text : String) :
    (writeString text).toList =
      '"' :: (text.toList.flatMap escape ++ ['"']) := by
  simp [writeString]

theorem scalar?_writeString (text : String) (rest : List Char) :
    scalar? ((writeString text).toList ++ rest) =
      some (.string text, rest) := by
  have shape : (writeString text).toList ++ rest =
      '"' :: (text.toList.flatMap escape ++ '"' :: rest) := by
    simp [toList_writeString]
  rw [shape, scalar?, quoted?_escape]
  simp only [Option.map_some, ofQuoted, text?_map_toNat]

/-- A digit begins a number. -/
theorem scalar?_of_isDigit {first : Char} (digit : first.isDigit = true)
    (others : List Char) :
    scalar? (first :: others) = number? false (first :: others) := by
  have n : first ≠ 'n' := ne_of_isDigit digit rfl
  have t : first ≠ 't' := ne_of_isDigit digit rfl
  have f : first ≠ 'f' := ne_of_isDigit digit rfl
  have quote : first ≠ '"' := ne_of_isDigit digit rfl
  have minus : first ≠ '-' := ne_of_isDigit digit rfl
  rw [scalar?.eq_def]
  split <;> simp_all

theorem scalar?_digitsOf {number : Nat} (fits : number ≤ maxSignificand)
    (ends : EndsNumber rest) :
    scalar? (Layout.digitsOf number ++ rest) =
      some (.natural number, rest) := by
  rcases exists_digitsOf number with ⟨first, others, digits, digit⟩
  have read := number?_digitsOf fits ends false
  rw [digits, List.cons_append] at read ⊢
  rw [scalar?_of_isDigit digit, read]
  rfl

/-- The text of a simple value is read as its value. -/
theorem scalar?_writeValue (simple : value.isSimple = true)
    (ends : EndsNumber rest) :
    scalar? ((writeValue value).toList ++ rest) =
      some (ofSimple value, rest) := by
  cases value with
  | string text =>
      rw [writeValue]
      exact scalar?_writeString text rest
  | boolean flag => cases flag <;> rfl
  | int32 number =>
      have bounds := number.toInt_lt
      have lower := number.le_toInt
      have fits : number.toInt.natAbs ≤ maxSignificand := by
        unfold maxSignificand
        omega
      simp only [writeValue, writeInteger, String.toList_ofList, ofSimple,
        Layout.integer]
      split
      · next negative =>
          have read := number?_digitsOf fits ends true
          rw [List.cons_append, scalar?, read]
          have representable : ¬(number.toInt.natAbs = 0 ∨
              0x8000000000000000 < number.toInt.natAbs) := by omega
          have opposite : -(number.toInt.natAbs : Int) = number.toInt := by
            omega
          simp only [ofInteger, if_true, if_neg representable, opposite]
      · next positive =>
          have same : number.toInt.natAbs = number.toInt.toNat := by omega
          rw [scalar?_digitsOf fits ends, same]
  | _ => cases simple

/-- A character that begins neither an array nor an object, nor stands between
the parts of a text. -/
def BeginsScalar (character : Char) : Prop :=
  isFiller character = false ∧ character ≠ '[' ∧ character ≠ '\x7b'

instance (character : Char) : Decidable (BeginsScalar character) :=
  inferInstanceAs (Decidable (_ ∧ _))

theorem beginsScalar_of_isDigit {character : Char}
    (digit : character.isDigit = true) : BeginsScalar character := by
  have space : character ≠ ' ' := ne_of_isDigit digit rfl
  have newline : character ≠ '\n' := ne_of_isDigit digit rfl
  have tab : character ≠ '\t' := ne_of_isDigit digit rfl
  have carriage : character ≠ '\r' := ne_of_isDigit digit rfl
  refine ⟨?_, ne_of_isDigit digit rfl, ne_of_isDigit digit rfl⟩
  simp [isFiller, space, newline, tab, carriage]

theorem exists_beginsScalar (simple : value.isSimple = true) :
    ∃ first others, (writeValue value).toList = first :: others ∧
      BeginsScalar first := by
  cases value with
  | string text =>
      exact ⟨'"', _, toList_writeString text, by decide⟩
  | boolean flag =>
      cases flag with
      | true => exact ⟨'t', "rue".toList, rfl, by decide⟩
      | false => exact ⟨'f', "alse".toList, rfl, by decide⟩
  | int32 number =>
      simp only [writeValue, writeInteger, String.toList_ofList,
        Layout.integer]
      split
      · exact ⟨'-', _, rfl, by decide⟩
      · rcases exists_digitsOf number.toInt.natAbs with
          ⟨first, others, digits, digit⟩
        exact ⟨first, others, digits, beginsScalar_of_isDigit digit⟩
  | _ => cases simple

theorem dropFiller_cons {first : Char} (solid : isFiller first = false)
    (others : List Char) : dropFiller (first :: others) = first :: others := by
  simp [dropFiller, solid]

/-- Wherever it stands, a simple value is read as a scalar. -/
theorem value?_writeValue (simple : value.isSimple = true)
    (ends : EndsNumber rest) (fuel depth : Nat) :
    value? (fuel + 1) depth ((writeValue value).toList ++ rest) =
      some (ofSimple value, rest) := by
  have read := scalar?_writeValue simple ends
  rcases exists_beginsScalar simple with
    ⟨first, others, text, solid, noArray, noObject⟩
  rw [text, List.cons_append] at read ⊢
  rw [value?, dropFiller_cons solid]
  split
  · next opening => exact absurd (List.cons.inj opening).1 noArray
  · next opening => exact absurd (List.cons.inj opening).1 noObject
  · exact read

/-! ## Members -/

/-- The text of a member. -/
def memberText (entry : String × Value) : List Char :=
  (writeMember entry.1 (writeValue entry.2)).toList

/-- The text behind a member: the other members and the closing brace. -/
def membersEnd : Document → List Char
  | [] => ['\x7d']
  | entry :: rest => ',' :: (memberText entry ++ membersEnd rest)

theorem memberText_eq (entry : String × Value) :
    memberText entry = '"' :: (entry.1.toList.flatMap escape ++
      '"' :: ':' :: (writeValue entry.2).toList) := by
  simp [memberText, writeMember, toList_writeString]

theorem writeEntries_eq_map (document : Document) :
    writeEntries document = document.map fun entry =>
      writeMember entry.1 (writeValue entry.2) := by
  induction document with
  | nil => rfl
  | cons entry rest ih => rw [writeEntries, ih, List.map_cons]

theorem toList_writeDocument_cons (entry : String × Value)
    (document : Document) :
    (writeDocument (entry :: document)).toList =
      '\x7b' :: (memberText entry ++ membersEnd document) := by
  have joined (entry : String × Value) (document : Document) :
      [','].intercalate ((entry :: document).map memberText) ++ ['\x7d'] =
        memberText entry ++ membersEnd document := by
    induction document generalizing entry with
    | nil => simp [membersEnd]
    | cons next rest ih =>
        rw [List.map_cons, List.map_cons, List.intercalate_cons_cons,
          ← List.map_cons, List.append_assoc, ih]
        simp [membersEnd]
  have texts : (writeEntries (entry :: document)).map String.toList =
      (entry :: document).map memberText := by
    rw [writeEntries_eq_map, List.map_map]
    rfl
  rw [← joined, ← texts, writeDocument, writeMembers]
  simp

theorem name?_written (name : String) (rest : List Char) :
    name? (name.toList.flatMap escape ++ '"' :: ':' :: rest) =
      some (some name, rest) := by
  have solid : dropFiller (':' :: rest) = ':' :: rest :=
    dropFiller_cons (by decide) rest
  rw [name?, quoted?_escape]
  simp only [solid, Bool.false_eq_true, if_false, text?_map_toNat]

/-- A member as it is read. -/
def memberOf (entry : String × Value) : Option String × Json :=
  (some entry.1, ofSimple entry.2)

theorem memberText_append (entry : String × Value) (rest : List Char) :
    memberText entry ++ rest =
      '"' :: (entry.1.toList.flatMap escape ++
        '"' :: ':' :: ((writeValue entry.2).toList ++ rest)) := by
  simp [memberText_eq]

/-- Behind a member and a comma the next member is read. -/
theorem members?_memberText_comma {entry : String × Value}
    (simple : entry.2.isSimple = true) (fuel depth : Nat)
    (read : List (Option String × Json)) (others : List Char) :
    members? (fuel + 2) depth read (memberText entry ++ ',' :: others) =
      members? (fuel + 1) depth (memberOf entry :: read) others := by
  have ends : EndsNumber (',' :: others) := endsNumber_cons (by decide) others
  have solid : dropFiller (',' :: others) = ',' :: others :=
    dropFiller_cons (by decide) others
  rw [memberText_append, members?, dropFiller_cons (by decide)]
  simp only [name?_written, value?_writeValue simple ends, solid, memberOf]

/-- A member and a closing brace end an object. -/
theorem members?_memberText_brace {entry : String × Value}
    (simple : entry.2.isSimple = true) (fuel depth : Nat)
    (read : List (Option String × Json)) (last : List Char) :
    members? (fuel + 2) depth read (memberText entry ++ '\x7d' :: last) =
      some (ofMembers (memberOf entry :: read).reverse, last) := by
  have ends : EndsNumber ('\x7d' :: last) := endsNumber_cons (by decide) last
  have solid : dropFiller ('\x7d' :: last) = '\x7d' :: last :=
    dropFiller_cons (by decide) last
  rw [memberText_append, members?, dropFiller_cons (by decide)]
  simp only [name?_written, value?_writeValue simple ends, solid, memberOf]

/-- The members are read one after the other, each with one step. -/
theorem members?_membersEnd {entry : String × Value} {document : Document}
    (simple : Document.Simple (entry :: document)) {fuel : Nat}
    (enough : document.length ≤ fuel) (depth : Nat)
    (read : List (Option String × Json)) :
    members? (fuel + 2) depth read (memberText entry ++ membersEnd document) =
      some (ofMembers (read.reverse ++ (entry :: document).map memberOf),
        []) := by
  induction document generalizing entry read fuel with
  | nil =>
      rw [membersEnd,
        members?_memberText_brace (simple entry List.mem_cons_self)]
      simp
  | cons next others ih =>
      obtain ⟨fuel, rfl⟩ := Nat.exists_eq_add_one_of_ne_zero
        (Nat.ne_of_gt (Nat.lt_of_lt_of_le (Nat.succ_pos _) enough))
      have remaining : Document.Simple (next :: others) :=
        fun other member => simple other (List.mem_cons_of_mem _ member)
      rw [membersEnd,
        members?_memberText_comma (simple entry List.mem_cons_self),
        ih remaining (Nat.le_of_succ_le_succ enough)]
      simp

/-! ## Whole documents -/

/-- An object with an entry's name and the value of its text. -/
def namedOf (entry : String × Value) : String × Json :=
  (entry.1, ofSimple entry.2)

theorem ofMembers_map_memberOf (document : Document) :
    ofMembers (document.map memberOf) = .object (document.map namedOf) := by
  have named : (document.map memberOf).mapM
      (fun (member : Option String × Json) =>
        member.1.map (·, member.2)) = some (document.map namedOf) := by
    induction document with
    | nil => rfl
    | cons entry rest ih =>
        rw [List.map_cons, List.mapM_cons, ih]
        rfl
  unfold ofMembers
  split
  · next members found =>
      rw [Option.some.inj (found.symm.trans named)]
  · next refused => cases refused.symm.trans named

theorem isSound_ofSimple (value : Value) : (ofSimple value).isSound = true := by
  cases value with
  | int32 number =>
      rw [ofSimple]
      split <;> rfl
  | _ => rfl

theorem membersSound_map_namedOf (document : Document) :
    membersSound (document.map namedOf) = true := by
  induction document with
  | nil => rfl
  | cons entry rest ih =>
      rw [List.map_cons, namedOf, membersSound, isSound_ofSimple, ih]
      rfl

theorem length_le_membersEnd (document : Document) :
    document.length ≤ (membersEnd document).length := by
  induction document with
  | nil => exact Nat.zero_le _
  | cons entry rest ih =>
      rw [membersEnd, List.length_cons, List.length_cons, List.length_append]
      omega

theorem value?_writeDocument_cons {entry : String × Value}
    {document : Document} (simple : Document.Simple (entry :: document))
    {fuel : Nat} (enough : document.length ≤ fuel) (depth : Nat) :
    value? (fuel + 3) (depth + 1) (writeDocument (entry :: document)).toList =
      some (.object ((entry :: document).map namedOf), []) := by
  have members := members?_membersEnd simple enough depth []
  have first : dropFiller (memberText entry ++ membersEnd document) =
      memberText entry ++ membersEnd document := by
    rw [memberText_eq]
    exact dropFiller_cons (by decide) _
  rw [toList_writeDocument_cons, value?, dropFiller_cons (by decide)]
  simp only [first]
  split
  · next last closed =>
      rw [memberText_eq] at closed
      cases closed
  · rw [members, List.reverse_nil, List.nil_append, ofMembers_map_memberOf]

/-- The text of a simple document has the object of its entries as value. -/
theorem parse?_writeDocument {document : Document} (simple : document.Simple) :
    parse? (writeDocument document) =
      some (.object (document.map namedOf)) := by
  have read : parseAny? (writeDocument document) =
      some (.object (document.map namedOf)) := by
    cases document with
    | nil => rfl
    | cons entry rest =>
        obtain ⟨fuel, steps, enough⟩ : ∃ fuel,
            2 * (writeDocument (entry :: rest)).toList.length + 2 =
              fuel + 3 ∧ rest.length ≤ fuel := by
          have long := length_le_membersEnd rest
          refine ⟨2 * (writeDocument (entry :: rest)).toList.length - 1, ?_⟩
          simp only [toList_writeDocument_cons, List.length_cons,
            List.length_append]
          omega
        simp only [parseAny?, steps, maxDepth,
          value?_writeDocument_cons simple enough]
        rfl
  rw [parse?, read, Option.filter_some, isSound, membersSound_map_namedOf,
    if_pos rfl]

end Json

end DocQuery
