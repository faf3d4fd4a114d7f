import ListingGrid.Unicode.Age
import ListingGrid.Unicode.Segmentation

/-!
# Names of character properties

A pattern names a set of characters by a binary property, a general category or
a script, or by a property and one of its values. Names are read in any case,
with spaces, hyphens and underscores wherever one likes.
-/

set_option autoImplicit false

namespace ListingGrid.CharSet

open Unicode (CharClass)

/-- The name in small letters, without spaces, hyphens, underscores, characters
beyond ASCII and an `is` in front. The name `isc` keeps its `is`, as `c` is
another name. -/
def looseName (name : List Char) : String :=
  let bare := match name with
    | i :: s :: rest => if Text.lowerAll [i, s] = ['i', 's'] then rest else name
    | _ => name
  let word := Text.lowerAll (bare.filter fun c =>
    c.toNat < 128 && c != ' ' && c != '_' && c != '-')
  if word = ['c'] ∧ bare.length < name.length then "isc" else String.ofList word

def listed? (table : List (List String × CharClass)) (name : String) : Option CharClass :=
  (table.find? fun (names, _) => names.contains name).map (·.2)

/-- The set that a name alone stands for. The short names `cf`, `sc` and `lc`
are general categories although properties have them too. -/
def property? (name : List Char) : Option CharSet :=
  let name := looseName name
  let asValue := (listed? Unicode.categories name).orElse fun _ => Unicode.script? name
  let found := if name = "cf" ∨ name = "sc" ∨ name = "lc" then asValue
    else (listed? Unicode.properties name).orElse fun _ => asValue
  found.map CharClass.set

def propertyValue? (name value : List Char) : Option CharSet :=
  let value := looseName value
  let found := match looseName name with
    | "gc" | "generalcategory" => listed? Unicode.categories value
    | "sc" | "script" => Unicode.script? value
    | "scx" | "scriptextensions" => Unicode.usedInScript? value
    | "age" => Unicode.assignedUpTo? value
    | "gcb" | "graphemeclusterbreak" => listed? Unicode.graphemeClusterBreaks value
    | "wb" | "wordbreak" => listed? Unicode.wordBreaks value
    | "sb" | "sentencebreak" => listed? Unicode.sentenceBreaks value
    | _ => none
  found.map CharClass.set

end ListingGrid.CharSet
