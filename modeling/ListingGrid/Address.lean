import ListingGrid.Text.Ascii

/-!
# Spreadsheet addresses

Rows and columns are counted from 0 here and from 1 on a sheet. Columns are
named in bijective base 26: there is no zero digit, so `Z` is followed by
`AA`.
-/

set_option autoImplicit false

namespace ListingGrid

def columnLetters (n : Nat) : List Char :=
  if n = 0 then []
  else columnLetters ((n - 1) / 26) ++ [Char.ofNat ('A'.toNat + (n - 1) % 26)]
termination_by n
decreasing_by omega

def columnName (column : Nat) : String := String.ofList (columnLetters (column + 1))

/-- The greatest column number that a name may denote, counted from 1. -/
def greatestColumnNumber : Nat := Nat.pow 2 64 - 1

def columnNumber? : List Char → Nat → Option Nat
  | [], number => some number
  | c :: rest, number =>
    if Text.isLetter c then
      let next := 26 * number + (Text.upper c).toNat - 'A'.toNat + 1
      if next ≤ greatestColumnNumber then columnNumber? rest next else none
    else none

/-- The column, counted from 0, that a name in any case denotes. -/
def columnIndex? (name : String) : Option Nat :=
  match columnNumber? name.toList 0 with
  | some (n + 1) => some n
  | _ => none

def sheetRow (row : Nat) : Nat := row + 1

def cellAddress (row column : Nat) : String :=
  columnName column ++ Text.naturalText (sheetRow row)

end ListingGrid
