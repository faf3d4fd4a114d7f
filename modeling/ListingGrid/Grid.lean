import ListingGrid.Section

/-!
# The grid

A pass over a listing yields groups of rows of cells. Every cell knows its
place on the sheet, the field that it came from and the text that it was read
from.
-/

set_option autoImplicit false

namespace ListingGrid

structure Cell where
  row : Nat
  column : Nat
  field : Field
  raw : Option String
  stored : CellValue
  deriving DecidableEq, Repr

namespace Cell

def address (cell : Cell) : String := cellAddress cell.row cell.column

/-- The stored value, in which references relative to the cell are resolved. -/
def value (cell : Cell) : CellValue :=
  match cell.stored with
  | .formula text => .formula (String.ofList (Placeholder.resolve text.toList cell.row cell.column))
  | value => value

/-- The name of the cell where cells have names instead of addresses. -/
def name (cell : Cell) : String :=
  match cell.field.name, cell.field.kind with
  | none, _ => "field" ++ Text.naturalText cell.column
  | some name, .empty count =>
    if count = 1 then name else name ++ Text.naturalText cell.column
  | some name, _ => name

def styleId (cell : Cell) : Option String := cell.field.styleId

/-- The address, the type of the field and the value. -/
def text (cell : Cell) : String :=
  cell.address ++ " (" ++ cell.field.type.keyword ++ ") = " ++ cell.value.display

end Cell

/-- The cells that one line filled, or several where the row was kept open. -/
structure Row where
  role : Role
  sectionIndex : Nat
  fieldset : Nat
  cells : List Cell
  deriving DecidableEq, Repr

namespace Row

def extend (row : Row) (role : Role) (fieldset : Nat) (cells : List Cell) : Row :=
  { row with role, fieldset, cells := row.cells ++ cells }

end Row

/-- One occurrence of a section in a listing. -/
structure CellGroup where
  index : Nat
  sectionIndex : Nat
  baseRow : Nat
  headerRows : Nat
  rows : Array Row
  deriving DecidableEq, Repr

namespace CellGroup

def startRow (group : CellGroup) : Nat := group.baseRow + group.headerRows

def cells (group : CellGroup) : List Cell := group.rows.toList.flatMap (·.cells)

end CellGroup

end ListingGrid
