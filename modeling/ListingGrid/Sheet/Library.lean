import ListingGrid.Sheet.Cell

/-!
# Libraries of sheets

Sheets are made by a library, which may refuse what it is told. Here is what the
making of a sheet asks of one, and a library that keeps the last cell written at a
place, counts rows and columns within the limits of a sheet, and keeps a cell without
contents only for its format.
-/

set_option autoImplicit false

namespace ListingGrid

/-- Why a name cannot be the name of a sheet. -/
inductive SheetNameError where
  | blank
  | tooLong
  | invalidCharacter
  | apostrophe
  deriving DecidableEq, Repr

namespace SheetNameError

def reason : SheetNameError → String
  | .blank => "cannot be blank."
  | .tooLong => "exceeds Excel's limit of 31 characters."
  | .invalidCharacter => "cannot contain invalid characters: '[ ] : * ? / \\'."
  | .apostrophe => "cannot start or end with an apostrophe."

def message (name : String) (e : SheetNameError) : String :=
  "Worksheet name 'worksheet.set_name(\"" ++ name ++ "\")' " ++ e.reason

end SheetNameError

/-- What is wrong with the name of a sheet, if anything is. -/
def sheetNameFault? (name : String) : Option SheetNameError :=
  if name.isEmpty then some .blank
  else if 31 < name.length then some .tooLong
  else if name.toList.any (['[', ']', ':', '*', '?', '/', '\\'].contains ·) then
    some .invalidCharacter
  else if name.toList.head? = some '\'' || name.toList.getLast? = some '\'' then
    some .apostrophe
  else none

/-- What sheets are made with. Rows and columns are counted from 0, and the cells that are
read back come with what is held of them. -/
structure SheetLibrary where
  Sheet : Type
  empty : Sheet
  setName (sheet : Sheet) (name : String) : Except SheetNameError Sheet
  setWidth (sheet : Sheet) (column width : Nat) : Except SheetCellError Sheet
  write (sheet : Sheet) (cell : SheetCell) : Except SheetCellError Sheet
  cells (sheet : Sheet) : List SheetCell

namespace SheetCell

def insertInto (cell : SheetCell) : List SheetCell → List SheetCell
  | [] => [cell]
  | other :: more =>
    if other.isBefore cell then cell :: other :: more
    else if cell.isBefore other then other :: insertInto cell more
    else cell :: more

def place (cell : SheetCell) : Nat × Nat := (cell.row, cell.column)

theorem isBefore_iff {a b : SheetCell} :
    a.isBefore b = true ↔ a.row < b.row ∨ a.row = b.row ∧ a.column < b.column := by
  simp [isBefore]

theorem isBefore_trans {a b c : SheetCell} (hab : a.isBefore b = true)
    (hbc : b.isBefore c = true) : a.isBefore c = true := by
  rw [isBefore_iff] at *
  omega

theorem place_ne_of_isBefore {a b : SheetCell} (h : a.isBefore b = true) : a.place ≠ b.place := by
  rw [isBefore_iff] at h
  intro heq
  obtain ⟨hrow, hcolumn⟩ := Prod.mk.inj heq
  omega

theorem place_eq_of_not_isBefore {a b : SheetCell} (hab : a.isBefore b ≠ true)
    (hba : b.isBefore a ≠ true) : a.place = b.place := by
  rw [ne_eq, isBefore_iff] at hab hba
  exact Prod.ext (by simp only [place]; omega) (by simp only [place]; omega)

abbrev Descending (cells : List SheetCell) : Prop :=
  cells.Pairwise fun a b => b.isBefore a = true

theorem mem_insertInto {cell x : SheetCell} {cells : List SheetCell} (h : Descending cells) :
    x ∈ cell.insertInto cells ↔ x = cell ∨ x ∈ cells ∧ x.place ≠ cell.place := by
  induction cells with
  | nil => simp [insertInto]
  | cons other more ih =>
    obtain ⟨hother, hmore⟩ := List.pairwise_cons.mp h
    rw [insertInto]
    split
    · next hbefore =>
      have hapart : ∀ y ∈ other :: more, y.place ≠ cell.place := by
        intro y hy
        rcases List.mem_cons.mp hy with rfl | hy
        · exact place_ne_of_isBefore hbefore
        · exact place_ne_of_isBefore (isBefore_trans (hother y hy) hbefore)
      rw [List.mem_cons]
      exact or_congr_right (iff_self_and.mpr (hapart x))
    · next hbefore =>
      split
      · next hbehind =>
        rw [List.mem_cons, ih hmore, List.mem_cons]
        have hne := (place_ne_of_isBefore hbehind).symm
        constructor
        · rintro (rfl | rfl | ⟨hx, hplace⟩)
          · exact .inr ⟨.inl rfl, hne⟩
          · exact .inl rfl
          · exact .inr ⟨.inr hx, hplace⟩
        · rintro (rfl | ⟨rfl | hx, hplace⟩)
          · exact .inr (.inl rfl)
          · exact .inl rfl
          · exact .inr (.inr ⟨hx, hplace⟩)
      · next hbehind =>
        have hsame := place_eq_of_not_isBefore hbefore hbehind
        rw [List.mem_cons, List.mem_cons]
        constructor
        · rintro (rfl | hx)
          · exact .inl rfl
          · exact .inr ⟨.inr hx, hsame ▸ place_ne_of_isBefore (hother x hx)⟩
        · rintro (rfl | ⟨rfl | hx, hplace⟩)
          · exact .inl rfl
          · exact absurd hsame hplace
          · exact .inr hx

theorem insertInto_descending (cell : SheetCell) {cells : List SheetCell}
    (h : Descending cells) : Descending (cell.insertInto cells) := by
  induction cells with
  | nil => exact List.pairwise_singleton ..
  | cons other more ih =>
    obtain ⟨hother, hmore⟩ := List.pairwise_cons.mp h
    rw [insertInto]
    split
    · next hbefore =>
      refine List.pairwise_cons.mpr ⟨fun y hy => ?_, h⟩
      rcases List.mem_cons.mp hy with rfl | hy
      · exact hbefore
      · exact isBefore_trans (hother y hy) hbefore
    · next hbefore =>
      split
      · next hbehind =>
        refine List.pairwise_cons.mpr ⟨fun y hy => ?_, ih hmore⟩
        rcases (mem_insertInto hmore).mp hy with rfl | ⟨hy, -⟩
        · exact hbehind
        · exact hother y hy
      · next hbehind =>
        obtain ⟨hrow, hcolumn⟩ := Prod.mk.inj (place_eq_of_not_isBefore hbefore hbehind)
        refine List.pairwise_cons.mpr ⟨fun y hy => ?_, hmore⟩
        have hbefore := hother y hy
        rw [isBefore_iff] at *
        omega

end SheetCell

structure Sheet where
  name : String
  widths : List (Nat × Nat)
  written : List SheetCell
  descending : SheetCell.Descending written
  deriving DecidableEq, Repr

namespace Sheet

def empty : Sheet := ⟨"Sheet1", [], [], .nil⟩

def setName (sheet : Sheet) (name : String) : Except SheetNameError Sheet :=
  match sheetNameFault? name with
  | some cause => .error cause
  | none => .ok { sheet with name }

def widthLimit : Nat := 255

def insertWidth (column width : Nat) : List (Nat × Nat) → List (Nat × Nat)
  | [] => [(column, width)]
  | other :: more =>
    if other.1 < column then (column, width) :: other :: more
    else if column < other.1 then other :: insertWidth column width more
    else (column, width) :: more

def setWidth (sheet : Sheet) (column width : Nat) : Except SheetCellError Sheet :=
  if SheetCell.columnLimit ≤ column then .error .outside
  else .ok { sheet with widths := insertWidth column (min width widthLimit) sheet.widths }

def heldContent : SheetContent → SheetContent
  | .number (.infinite negative) => .string (if negative then "-INF" else "INF")
  | .number .nan => .string "NAN"
  | content => content.held

def isTooLong : SheetContent → Bool
  | .string s => SheetContent.textLimit < s.length
  | _ => false

def write (sheet : Sheet) (cell : SheetCell) : Except SheetCellError Sheet :=
  if SheetCell.rowLimit ≤ cell.row || SheetCell.columnLimit ≤ cell.column then .error .outside
  else if isTooLong cell.content then .error .textTooLong
  else
    let held := { cell with content := heldContent cell.content }
    .ok { sheet with
      written := held.insertInto sheet.written
      descending := held.insertInto_descending sheet.descending }

def cells (sheet : Sheet) : List SheetCell := sheet.written.reverse.filter (·.isVisible)

end Sheet

def SheetLibrary.standard : SheetLibrary where
  Sheet := ListingGrid.Sheet
  empty := .empty
  setName := Sheet.setName
  setWidth := Sheet.setWidth
  write := Sheet.write
  cells := Sheet.cells

end ListingGrid
