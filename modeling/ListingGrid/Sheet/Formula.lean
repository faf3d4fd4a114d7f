import ListingGrid.Text.Ascii
import ListingGrid.Unicode.DerivedProperty

/-!
# Formulas of a sheet

A sheet keeps a formula without the equals sign in front. The functions that
give arrays of changing size were added late; a sheet knows them under names
with a prefix, which is put in front of each of their calls.
-/

set_option autoImplicit false

namespace ListingGrid.SheetFormula

def laterPrefix : List Char := "_xlfn.".toList

def laterFunctions : List (List Char) :=
  ["ANCHORARRAY", "BYCOL", "BYROW", "CHOOSECOLS", "CHOOSEROWS", "DROP", "EXPAND", "HSTACK",
    "LAMBDA", "MAKEARRAY", "MAP", "RANDARRAY", "REDUCE", "SCAN", "SEQUENCE", "SINGLE", "SORTBY",
    "SWITCH", "TAKE", "TEXTSPLIT", "TOCOL", "TOROW", "UNIQUE", "VSTACK", "WRAPCOLS", "WRAPROWS",
    "XLOOKUP", "XMATCH"].map String.toList

def sheetFunctions : List (List Char) := ["FILTER", "SORT"].map String.toList

def calls (functions : List (List Char)) (text : List Char) : Bool :=
  functions.any fun name => (name ++ ['(']).isPrefixOf text

def callPrefix (text : List Char) : List Char :=
  if calls laterFunctions text then laterPrefix
  else if calls sheetFunctions text then laterPrefix ++ "_xlws.".toList
  else []

def withPrefixes : (insideWord : Bool) → List Char → List Char
  | _, [] => []
  | insideWord, c :: rest =>
    let added := if insideWord then [] else callPrefix (c :: rest)
    added ++ c :: withPrefixes (CharSet.wordChar.contains c) rest

/-- The formula without the equals sign in front and a brace at the end. -/
def bare (text : List Char) : List Char :=
  let body := text.drop 1
  if body.getLast? = some '\x7d' then body.dropLast else body

def hasPrefix : List Char → Bool
  | [] => false
  | c :: rest => laterPrefix.isPrefixOf (c :: rest) || hasPrefix rest

def stored (text : List Char) : List Char :=
  let body := bare text
  if hasPrefix body then body else withPrefixes false body

end ListingGrid.SheetFormula
