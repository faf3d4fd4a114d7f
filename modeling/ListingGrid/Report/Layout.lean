import ListingGrid.Grid

/-!
# Laying out a pass

Rows are laid out in the order of output: a group begins with the rows of its
head, goes on with those of its body and ends with those of its foot; a blank
row may follow when another group does. A row that was kept open is continued
by the next line of the group.
-/

set_option autoImplicit false

namespace ListingGrid

structure Layout where
  row : Nat
  finished : Array CellGroup
  active : Option CellGroup
  rowOpen : Bool
  line : Nat

/-- A value that does not follow its format: its line, its field and why. -/
structure ValueFault where
  line : Nat
  field : String
  cause : FormatMismatch
  deriving DecidableEq, Repr

structure Laid where
  layout : Layout
  fault : Option ValueFault

namespace Layout

def start : Layout := ⟨0, #[], none, false, 0⟩

def activeSection (l : Layout) : Option Nat := l.active.map (·.sectionIndex)

def groupCount (l : Layout) : Nat := l.finished.size + (if l.active.isSome then 1 else 0)

def groups (l : Layout) : Array CellGroup :=
  match l.active with
  | some group => l.finished.push group
  | none => l.finished

def fieldLabel (field : Field) (column : Nat) : String :=
  field.name.getD ("field" ++ Text.naturalText column)

/-- The cells of a field from a column on. `row` is the row of the cells and
`startRow` the first body row of the group on the sheet. -/
def fieldCells (lineText : String) (row startRow column : Nat) (field : Field) :
    Except FormatMismatch (List Cell) :=
  match field.kind with
  | .extracted extraction range =>
    let raw := range.slice lineText
    (extraction.transform raw).map fun value => [⟨row, column, field, some raw, value⟩]
  | .empty count =>
    .ok ((List.range count).map fun k => ⟨row, column + k, field, none, .empty⟩)
  | .const value => .ok [⟨row, column, field, none, value.toCellValue⟩]
  | .function formula =>
    .ok [⟨row, column, field, some formula,
      .formula (String.ofList (Placeholder.resolveGroup formula.toList startRow row))⟩]

/-- The cells of fields from a column on; the first value that does not follow
its format stops them. -/
def cellsFrom (lineNumber : Nat) (lineText : String) (row startRow : Nat) :
    Nat → List Field → Except ValueFault (List Cell)
  | _, [] => .ok []
  | column, field :: more =>
    match fieldCells lineText row startRow column field with
    | .error cause => .error ⟨lineNumber, fieldLabel field column, cause⟩
    | .ok cells => do
      return cells ++ (← cellsFrom lineNumber lineText row startRow (column + field.width) more)

def nextColumn (group : CellGroup) : Nat :=
  match group.rows.back? with
  | some row =>
    match row.cells.getLast? with
    | some cell => cell.column + 1
    | none => 0
  | none => 0

def addCells (group : CellGroup) (continues : Bool) (role : Role) (fieldset : Nat)
    (cells : List Cell) : CellGroup :=
  match continues, group.rows.back? with
  | true, some row => { group with rows := group.rows.pop.push (row.extend role fieldset cells) }
  | _, _ => { group with rows := group.rows.push ⟨role, group.sectionIndex, fieldset, cells⟩ }

def closeRow (l : Layout) : Layout :=
  if l.rowOpen then { l with row := l.row + 1, rowOpen := false } else l

/-- Lays out the fields of a fieldset for a line. -/
def store (l : Layout) (role : Role) (position : Nat) (fieldset : Fieldset) (lineText : String) :
    Laid :=
  let l := if fieldset.newRow then l.closeRow else l
  match l.active with
  | none => ⟨l, none⟩
  | some group =>
    let column := if l.rowOpen then nextColumn group else 0
    match cellsFrom l.line lineText l.row (sheetRow group.startRow) column fieldset.fields with
    | .error fault => ⟨l, some fault⟩
    | .ok cells =>
      if cells.isEmpty then ⟨l, none⟩
      else
        let group := addCells group l.rowOpen role position cells
        if fieldset.keepInRow then ⟨{ l with active := some group, rowOpen := true }, none⟩
        else ⟨{ l with active := some group, rowOpen := false, row := l.row + 1 }, none⟩

def storeAll (l : Layout) (role : Role) (lineText : String) : Nat → List Fieldset → Laid
  | _, [] => ⟨l, none⟩
  | position, fieldset :: more =>
    let laid := l.store role position fieldset lineText
    match laid.fault with
    | some _ => laid
    | none => laid.layout.storeAll role lineText (position + 1) more

def openGroup (l : Layout) (index : Nat) (s : Section) (lineText : String) : Laid :=
  let group : CellGroup := ⟨l.groupCount, index, l.row, s.header.length, #[]⟩
  { l with active := some group }.storeAll .header lineText 0 s.header

/-- Finishes the active group: ends a row that was kept open, lays out the foot,
and leaves a row blank when another group follows and the section asks for it. -/
def closeGroup (l : Layout) (sections : List Section) (lineText : String) (followed : Bool) :
    Laid :=
  match l.active with
  | none => ⟨l, none⟩
  | some group =>
    match sections[group.sectionIndex]? with
    | none => ⟨l, none⟩
    | some s =>
      let laid := l.closeRow.storeAll .footer lineText 0 s.footer
      match laid.fault with
      | some _ => laid
      | none =>
        let l := laid.layout
        ⟨{ l with
          row := if followed && s.blankRow then l.row + 1 else l.row
          finished := l.groups
          active := none }, none⟩

end Layout

end ListingGrid
