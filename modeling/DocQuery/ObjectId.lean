import DocQuery.Text.Digits

/-!
# Object identifiers

An identifier of twelve bytes, ordered byte by byte, and the supply that makes
new ones.  Every new identifier is above all that the supply made before it.
-/

namespace DocQuery

/-- An identifier of twelve bytes, read as one number from the highest byte
down. -/
structure ObjectId where
  /-- The twelve bytes. -/
  bytes : BitVec 96
  deriving DecidableEq, Repr, Inhabited

namespace ObjectId

/-- The 24 lower-case hexadecimal digits. -/
def toHex (id : ObjectId) : String :=
  String.ofList (Text.hexDigits 24 id.bytes.toNat)

/-- Read exactly 24 hexadecimal digits of either case. -/
def ofHex? (text : String) : Option ObjectId :=
  let characters := text.toList
  if characters.length = 24 then
    (Text.hexadecimal? characters).map fun value => ⟨BitVec.ofNat 96 value⟩
  else
    none

/-- Compare byte by byte. -/
def compare (left right : ObjectId) : Ordering :=
  Ord.compare left.bytes.toNat right.bytes.toNat

/-- A supply of new identifiers: it holds the next one. -/
structure Supply where
  /-- The identifier to be given out next. -/
  next : ObjectId
  deriving DecidableEq, Repr, Inhabited

/-- Take the next identifier. -/
def Supply.take (supply : Supply) : ObjectId × Supply :=
  (supply.next, ⟨⟨supply.next.bytes + 1⟩⟩)

@[simp]
theorem Supply.take_fst (supply : Supply) : supply.take.1 = supply.next := rfl

example : (ofHex? "65A1b2c3d4e5f60718293a4b").map toHex =
    some "65a1b2c3d4e5f60718293a4b" := by decide +kernel

end ObjectId

end DocQuery
