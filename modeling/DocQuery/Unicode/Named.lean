import DocQuery.Unicode.Age
import DocQuery.Unicode.Property
import DocQuery.Unicode.Script
import DocQuery.Unicode.Segmentation

/-!
# Sets of characters by name

The search of a property, category or script by one name, and of a value of a
property by the names of both.  Case, blanks, dashes and underscores in names
do not matter.
-/

namespace DocQuery.Unicode

/-- Drop separators and an initial `is`, and use lower case. -/
def normalName (name : String) : String :=
  let keep (characters : List Char) : List Char :=
    (characters.filter fun character =>
      character != ' ' && character != '_' && character != '-' &&
        decide (character.toNat < 128)).map Char.toLower
  match name.toList with
  | first :: second :: rest =>
    if first.toLower = 'i' ∧ second.toLower = 's' then
      let kept := keep rest
      if kept = ['c'] then "isc" else String.ofList kept
    else
      String.ofList (keep name.toList)
  | characters => String.ofList (keep characters)

/-- The characters denoted by one name: a property, a category or a script.
Three abbreviations of categories are never read as properties. -/
def named? (name : String) : Option CodeSet :=
  let normal := normalName name
  let property :=
    if normal = "cf" ∨ normal = "sc" ∨ normal = "lc" then none
    else propertyNamed? normal
  match property with
  | some set => some set
  | none =>
    match categoryNamed? normal with
    | some set => some set
    | none => scriptNamed? normal

/-- The properties with more than two values: their names, and the search of a
value by its name. -/
def valuedProperties : List (List String × (String → Option CodeSet)) :=
  [(["gc", "generalcategory"], categoryNamed?),
   (["sc", "script"], scriptNamed?),
   (["scx", "scriptextensions"], sharedScriptNamed?),
   (["age"], agedBy?),
   (["gcb", "graphemeclusterbreak"], valueOf? graphemeBreakNames graphemeBreaks),
   (["wb", "wordbreak"], valueOf? wordBreakNames wordBreaks),
   (["sb", "sentencebreak"], valueOf? sentenceBreakNames sentenceBreaks)]

/-- The characters with a value of a property that has more than two. -/
def valueNamed? (property value : String) : Option CodeSet := do
  let normal := normalName property
  let (_, search) ←
    valuedProperties.find? fun (names, _) => names.contains normal
  search (normalName value)

end DocQuery.Unicode
