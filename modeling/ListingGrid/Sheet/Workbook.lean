import ListingGrid.Output.Format
import ListingGrid.Report.Basic
import ListingGrid.Sheet.Library

/-!
# Workbooks

A workbook has one sheet, to which the cells of a report's grid are written in turn
with the formats of their styles, after its name and the widths of its columns were
set. A cell whose style the report does not define has the plain format.
-/

set_option autoImplicit false

namespace ListingGrid

inductive WorkbookError where
  | sheetName (name : String) (cause : SheetNameError)
  | columnWidth (column : Nat) (cause : SheetCellError)
  | columnOutside
  | rowOutside
  | cell (address : String) (cause : SheetCellError)
  deriving DecidableEq, Repr

def WorkbookError.chain : WorkbookError → List String
  | .sheetName name cause => ["invalid sheet name " ++ Text.quoted name, cause.message name]
  | .columnWidth column cause =>
    ["set width of column " ++ Text.naturalText column, cause.message]
  | .columnOutside =>
    ["column outside the worksheet", "out of range integral type conversion attempted"]
  | .rowOutside =>
    ["row outside the worksheet", "out of range integral type conversion attempted"]
  | .cell address cause => ["write cell " ++ address, cause.message]

def WorkbookError.message (e : WorkbookError) : String := e.chain.headD ""

structure Workbook (Sheet : Type) where
  title : String
  author : String
  comment : Option String
  sheet : Sheet
  deriving DecidableEq, Repr

namespace Workbook

/-- Columns have numbers of 16 bits and rows have numbers of 32 bits, before
it is asked whether the sheet has them. -/
def checkColumn (column : Nat) : Except WorkbookError Unit :=
  if Nat.pow 2 16 ≤ column then .error .columnOutside else .ok ()

def checkRow (row : Nat) : Except WorkbookError Unit :=
  if Nat.pow 2 32 ≤ row then .error .rowOutside else .ok ()

def formatOf (report : Report) (cell : Cell) : SheetFormat :=
  match cell.styleId.bind report.style? with
  | some style => .ofStyle style
  | none => .plain

def sheetCell (report : Report) (cell : Cell) : SheetCell :=
  ⟨cell.row, cell.column, .ofValue cell.value, formatOf report cell⟩

def gridCells (report : Report) : List Cell := report.groups.toList.flatMap (·.cells)

section

variable (library : SheetLibrary)

def namedSheet (name : Option String) : Except WorkbookError library.Sheet :=
  match name with
  | none => .ok library.empty
  | some name => (library.setName library.empty name).mapError (.sheetName name)

def setWidths (sheet : library.Sheet) (column : Nat) :
    List Nat → Except WorkbookError library.Sheet
  | [] => .ok sheet
  | width :: more => do
    checkColumn column
    let sheet ← (library.setWidth sheet column width).mapError (.columnWidth column)
    setWidths sheet (column + 1) more

def writeCell (report : Report) (sheet : library.Sheet) (cell : Cell) :
    Except WorkbookError library.Sheet := do
  checkRow cell.row
  checkColumn cell.column
  (library.write sheet (sheetCell report cell)).mapError (.cell cell.address)

def build (report : Report) (options : RenderOptions) :
    Except WorkbookError (Workbook library.Sheet) := do
  let sheet ← namedSheet library options.sheetName
  let sheet ← setWidths library sheet 0 report.columnWidths
  let sheet ← (gridCells report).foldlM (writeCell library report) sheet
  return ⟨report.title, options.author, report.description, sheet⟩

end

def ofReport (report : Report) (options : RenderOptions) : Except WorkbookError (Workbook Sheet) :=
  build .standard report options

end Workbook

end ListingGrid
