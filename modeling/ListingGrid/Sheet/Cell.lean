import ListingGrid.Grid
import ListingGrid.Sheet.Format

/-!
# Cells of a sheet

What is written to a sheet and what is read back from it: contents with their
formats, each at a row and a column. A sheet has a limited number of both.
-/

set_option autoImplicit false

namespace ListingGrid

inductive SheetContent where
  | blank
  | string (text : String)
  | number (value : Double)
  | formula (text : String)
  deriving DecidableEq, Repr

structure SheetCell where
  row : Nat
  column : Nat
  content : SheetContent
  format : SheetFormat
  deriving DecidableEq, Repr

inductive SheetCellError where
  | outside
  | textTooLong
  deriving DecidableEq, Repr

def SheetCellError.message : SheetCellError → String
  | .outside => "Row or column exceeds Excel's allowed limits."
  | .textTooLong => "String exceeds Excel's limit of 32,767 characters."

namespace SheetContent

def textLimit : Nat := 32767

def ofFormula (text : String) : SheetContent :=
  if text.toList.head? = some '=' then .formula text else .string text

def ofValue : CellValue → SheetContent
  | .empty => .blank
  | .text s => .string s
  | .number n => .number n.toDouble
  | .formula s => ofFormula s

def held : SheetContent → SheetContent
  | .string s => if s.isEmpty then .blank else .string s
  | content => content

def isCoded (c : Char) : Bool :=
  (c.toNat < 0x20 && c != '\t' && c != '\n') || c.toNat == 0xFFFE || c.toNat == 0xFFFF

def codeText (n : Nat) : List Char :=
  let digits := Text.upperAll (Text.hexadecimalDigits n)
  '_' :: 'x' :: List.replicate (4 - digits.length) '0' ++ digits ++ ['_']

def looksCoded (s : List Char) : Bool :=
  s.take 2 == ['_', 'x'] && ((s.drop 2).take 4).length == 4 &&
    ((s.drop 2).take 4).all Text.isHexDigit && (s.drop 6).head? == some '_'

/-- The text as it is stored: characters that a sheet cannot hold are coded,
and so is the first character of what looks like a code already. The first
`skip` characters belong to such a text. -/
def storedFrom : List Char → Nat → List Char
  | [], _ => []
  | c :: rest, skip + 1 => c :: storedFrom rest skip
  | c :: rest, 0 =>
    if looksCoded (c :: rest) then codeText '_'.toNat ++ storedFrom rest 6
    else if isCoded c then codeText c.toNat ++ storedFrom rest 0
    else c :: storedFrom rest 0

def stored (text : String) : String := String.ofList (storedFrom text.toList 0)

end SheetContent

namespace SheetCell

def rowLimit : Nat := 1048576

def columnLimit : Nat := 16384

def address (cell : SheetCell) : String := cellAddress cell.row cell.column

def isBefore (a b : SheetCell) : Bool :=
  a.row < b.row || (a.row == b.row && a.column < b.column)

def held (cell : SheetCell) : SheetCell := { cell with content := cell.content.held }

def isVisible (cell : SheetCell) : Bool :=
  match cell.content with
  | .blank => cell.format != .plain
  | _ => true

end SheetCell

end ListingGrid
