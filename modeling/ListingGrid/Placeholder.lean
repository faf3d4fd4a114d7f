import ListingGrid.Address
import ListingGrid.Number.Basic
import ListingGrid.Unicode.DerivedProperty

/-!
# Placeholders of formulas

A formula may refer to the row and the column of its cell (`<ROW:n>` and
`<COL:n>`, with an offset), to the first body row of its group
(`<STARTROW>`) and to the row above it (`<ROWS>`). Placeholders are replaced
from left to right; a reference that would leave the sheet becomes an error
value.
-/

set_option autoImplicit false

namespace ListingGrid.Placeholder

def invalidReference : List Char := "#REF!".toList

/-- Replaces every occurrence of `mark` by `text`, occurrences taken from left
to right. The first `skip` characters belong to one that is replaced. -/
def replaceFrom (mark text : List Char) : List Char → Nat → List Char
  | [], _ => []
  | _ :: rest, skip + 1 => replaceFrom mark text rest skip
  | c :: rest, 0 =>
    if mark.isPrefixOf (c :: rest) then text ++ replaceFrom mark text rest (mark.length - 1)
    else c :: replaceFrom mark text rest 0

def replaceAll (mark text s : List Char) : List Char := replaceFrom mark text s 0

def isOffsetDigit (c : Char) : Bool := CharSet.decimalDigit.contains c

/-- An optional sign and digits in front of `>`: the offset and the number of
characters up to the angle bracket and with it. -/
def offset? (s : List Char) : Option (List Char × Nat) :=
  let sign := match s with
    | '+' :: _ => ['+']
    | '-' :: _ => ['-']
    | _ => []
  let body := s.drop sign.length
  let digits := body.takeWhile isOffsetDigit
  if digits.isEmpty then none
  else
    match body.dropWhile isOffsetDigit with
    | '>' :: _ => some (sign ++ digits, sign.length + digits.length + 1)
    | _ => none

def marker? (opening s : List Char) : Option (List Char × Nat) :=
  if opening.isPrefixOf s then
    (offset? (s.drop opening.length)).map fun (offset, length) =>
      (offset, opening.length + length)
  else none

def replaceMarkers (opening : List Char) (text : List Char → List Char) :
    List Char → Nat → List Char
  | [], _ => []
  | _ :: rest, skip + 1 => replaceMarkers opening text rest skip
  | c :: rest, 0 =>
    match marker? opening (c :: rest) with
    | some (offset, length) => text offset ++ replaceMarkers opening text rest (length - 1)
    | none => c :: replaceMarkers opening text rest 0

/-- The sum of a position and an offset, where both and the sum fit 64 bits and
the sum is not negative. -/
def shift? (base : Nat) (offset : List Char) : Option Nat :=
  match Number.integer? offset with
  | none => none
  | some n =>
    let target : Int := base + n
    if (base : Int) ≤ Number.greatestInteger ∧ 0 ≤ target ∧ target ≤ Number.greatestInteger then
      some target.toNat
    else none

def rowText (row : Nat) (offset : List Char) : List Char :=
  match shift? (sheetRow row) offset with
  | some (target + 1) => Text.decimalDigits (target + 1)
  | _ => invalidReference

def columnText (column : Nat) (offset : List Char) : List Char :=
  match shift? column offset with
  | some target => (columnName target).toList
  | none => invalidReference

def rowOpening : List Char := "<ROW:".toList

def columnOpening : List Char := "<COL:".toList

def resolve (formula : List Char) (row column : Nat) : List Char :=
  replaceMarkers columnOpening (columnText column)
    (replaceMarkers rowOpening (rowText row) formula 0) 0

def startRowMark : List Char := "<STARTROW>".toList

def rowsMark : List Char := "<ROWS>".toList

/-- Replaces the references to the group of a cell: its first body row, counted
from 1, and the number of rows above the cell. -/
def resolveGroup (formula : List Char) (startRow rows : Nat) : List Char :=
  replaceAll rowsMark (Text.decimalDigits rows)
    (replaceAll startRowMark (Text.decimalDigits startRow) formula)

end ListingGrid.Placeholder
