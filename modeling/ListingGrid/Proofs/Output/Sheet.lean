import ListingGrid.Proofs.Grid.Columns
import ListingGrid.Proofs.Report.Geometry
import ListingGrid.Sheet.Workbook
import Mathlib.Data.List.Infix

/-!
# Cells on a sheet

Within the limits of a sheet a workbook is made of every grid, by every library that keeps to
what is documented of libraries. Since the cells of a grid are written by rows, and by columns in
a row, no one replaces another: the sheet has each of them at its own address.
-/

set_option autoImplicit false

namespace ListingGrid

def SheetContent.Fits : SheetContent → Prop
  | .blank => True
  | .string s | .formula s => s.length ≤ textLimit
  | .number d => d.isFinite = true

structure SheetCell.Fits (cell : SheetCell) : Prop where
  row : cell.row < rowLimit
  column : cell.column < columnLimit
  content : cell.content.Fits

/-- What is documented of a library of sheets. It accepts names that follow the rules, columns of
a sheet and cells that fit one. A cell that is written is held instead of one at its place, and
only for its format if it has no content. What is read back comes by rows, and by columns in a
row. -/
structure SheetLibrary.Documented (library : SheetLibrary) : Prop where
  empty : library.cells library.empty = []
  name : ∀ sheet name, sheetNameFault? name = none →
    ∃ next, library.setName sheet name = .ok next ∧ library.cells next = library.cells sheet
  width : ∀ sheet column width, column < SheetCell.columnLimit →
    ∃ next, library.setWidth sheet column width = .ok next ∧
      library.cells next = library.cells sheet
  write : ∀ sheet cell, cell.Fits → ∃ next, library.write sheet cell = .ok next ∧
    ∀ shown, shown ∈ library.cells next ↔
      shown = cell.held ∧ shown.isVisible = true ∨
        shown ∈ library.cells sheet ∧ shown.place ≠ cell.place
  ordered : ∀ sheet, (library.cells sheet).Pairwise fun a b => a.isBefore b = true

namespace Sheet

theorem heldContent_eq {content : SheetContent} (h : content.Fits) :
    heldContent content = content.held := by
  cases content with
  | number d =>
    cases d with
    | finite => rfl
    | infinite => simp [SheetContent.Fits, Double.isFinite] at h
    | nan => simp [SheetContent.Fits, Double.isFinite] at h
  | _ => rfl

theorem setName_ok (sheet : Sheet) (name : String) (h : sheetNameFault? name = none) :
    ∃ next, sheet.setName name = .ok next ∧ next.cells = sheet.cells :=
  ⟨{ sheet with name }, by simp only [setName, h], rfl⟩

theorem setWidth_ok (sheet : Sheet) (column width : Nat) (h : column < SheetCell.columnLimit) :
    ∃ next, sheet.setWidth column width = .ok next ∧ next.cells = sheet.cells :=
  ⟨_, if_neg (Nat.not_le_of_lt h), rfl⟩

theorem mem_cells {sheet : Sheet} {cell : SheetCell} :
    cell ∈ sheet.cells ↔ cell ∈ sheet.written ∧ cell.isVisible = true := by
  rw [cells, List.mem_filter, List.mem_reverse]

theorem write_ok (sheet : Sheet) (cell : SheetCell) (h : cell.Fits) :
    ∃ next, sheet.write cell = .ok next ∧ ∀ shown, shown ∈ next.cells ↔
      shown = cell.held ∧ shown.isVisible = true ∨
        shown ∈ sheet.cells ∧ shown.place ≠ cell.place := by
  have hinside : ¬(SheetCell.rowLimit ≤ cell.row ∨ SheetCell.columnLimit ≤ cell.column) :=
    not_or.mpr ⟨Nat.not_le_of_lt h.row, Nat.not_le_of_lt h.column⟩
  have hshort : isTooLong cell.content = false := by
    have hcontent := h.content
    cases hc : cell.content with
    | string s =>
      rw [hc] at hcontent
      exact decide_eq_false (Nat.not_lt_of_le hcontent)
    | _ => rfl
  refine ⟨⟨sheet.name, sheet.widths, cell.held.insertInto sheet.written,
    cell.held.insertInto_descending sheet.descending⟩, ?_, fun shown => ?_⟩
  · simp [write, hinside, hshort, heldContent_eq h.content, SheetCell.held]
  · have hplace : cell.held.place = cell.place := rfl
    rw [mem_cells, mem_cells, SheetCell.mem_insertInto sheet.descending, hplace]
    tauto

theorem cells_ordered (sheet : Sheet) : sheet.cells.Pairwise fun a b => a.isBefore b = true :=
  (List.pairwise_reverse.mpr sheet.descending).filter _

end Sheet

theorem SheetLibrary.standard_documented : SheetLibrary.standard.Documented :=
  ⟨rfl, Sheet.setName_ok, Sheet.setWidth_ok, Sheet.write_ok, Sheet.cells_ordered⟩

inductive SheetContent.Shows : CellValue → SheetContent → Prop where
  | empty : Shows .empty .blank
  | noText : Shows (.text "") .blank
  | text {s : String} (hs : s ≠ "") : Shows (.text s) (.string s)
  | number (n : Number) : Shows (.number n) (.number n.toDouble)
  /-- Only what begins with an equals sign is a formula. -/
  | formula {s : String} (hs : s.toList.head? = some '=') : Shows (.formula s) (.formula s)
  | given {s : String} {content : SheetContent} (hs : s.toList.head? ≠ some '=')
      (h : Shows (.text s) content) : Shows (.formula s) content

/-- Whether a sheet has a place for a cell and can hold what it shows. -/
structure Cell.FitsSheet (cell : Cell) : Prop where
  row : cell.row < SheetCell.rowLimit
  column : cell.column < SheetCell.columnLimit
  text : ∀ s ∈ cell.value.text?, s.length ≤ SheetContent.textLimit
  number : ∀ n ∈ cell.value.number?, n.toDouble.isFinite = true

instance (cell : Cell) : Decidable cell.FitsSheet :=
  decidable_of_iff (cell.row < SheetCell.rowLimit ∧ cell.column < SheetCell.columnLimit ∧
      (∀ s ∈ cell.value.text?, s.length ≤ SheetContent.textLimit) ∧
      ∀ n ∈ cell.value.number?, n.toDouble.isFinite = true)
    ⟨fun ⟨hrow, hcolumn, htext, hnumber⟩ => ⟨hrow, hcolumn, htext, hnumber⟩,
      fun h => ⟨h.row, h.column, h.text, h.number⟩⟩

namespace SheetContent

theorem string_shows (s : String) : Shows (.text s) (held (.string s)) := by
  rw [held]
  split
  · next hs => exact (String.isEmpty_iff.mp hs) ▸ .noText
  · next hs => exact .text fun he => hs (String.isEmpty_iff.mpr he)

theorem ofValue_shows (value : CellValue) : Shows value (ofValue value).held := by
  cases value with
  | empty => exact .empty
  | text s => exact string_shows s
  | number n => exact .number n
  | formula s =>
    rw [ofValue, ofFormula]
    split
    · next hs => exact .formula hs
    · next hs => exact .given hs (string_shows s)

theorem ofValue_fits {value : CellValue} (htext : ∀ s ∈ value.text?, s.length ≤ textLimit)
    (hnumber : ∀ n ∈ value.number?, n.toDouble.isFinite = true) : (ofValue value).Fits := by
  cases value with
  | empty => trivial
  | text s => exact htext s rfl
  | number n => exact hnumber n rfl
  | formula s =>
    rw [ofValue, ofFormula]
    split <;> exact htext s rfl

end SheetContent

/-- Whether a sheet's cell is that of a cell of the grid: at its place, with what it shows and with
the format of its style. -/
structure SheetCell.Shows (report : Report) (cell : Cell) (shown : SheetCell) : Prop where
  row : shown.row = cell.row
  column : shown.column = cell.column
  content : SheetContent.Shows cell.value shown.content
  styled : ∀ id style, cell.styleId = some id → report.style? id = some style →
    shown.format = .ofStyle style
  plain : (∀ id, cell.styleId = some id → report.style? id = none) → shown.format = .plain

theorem SheetCell.isVisible_iff (cell : SheetCell) :
    cell.isVisible = true ↔ cell.content ≠ .blank ∨ cell.format ≠ .plain := by
  unfold isVisible
  split
  · next h => simp [h]
  · next h => exact iff_of_true rfl (.inl h)

namespace Workbook

theorem formatOf_styled {report : Report} {cell : Cell} {id : String} {style : Style}
    (hid : cell.styleId = some id) (hstyle : report.style? id = some style) :
    formatOf report cell = .ofStyle style := by
  simp [formatOf, hid, hstyle]

theorem formatOf_plain {report : Report} {cell : Cell}
    (h : ∀ id, cell.styleId = some id → report.style? id = none) :
    formatOf report cell = .plain := by
  unfold formatOf
  split
  · next style hstyle =>
    obtain ⟨id, hid, hstyle⟩ := Option.bind_eq_some_iff.mp hstyle
    simp [h id hid] at hstyle
  · rfl

variable {report : Report} {cell : Cell}

def shown (report : Report) (cell : Cell) : SheetCell := (sheetCell report cell).held

theorem shown_shows (report : Report) (cell : Cell) : (shown report cell).Shows report cell where
  row := rfl
  column := rfl
  content := SheetContent.ofValue_shows cell.value
  styled _ _ := formatOf_styled
  plain := formatOf_plain

theorem sheetCell_fits (report : Report) (h : cell.FitsSheet) : (sheetCell report cell).Fits :=
  ⟨h.row, h.column, SheetContent.ofValue_fits h.text h.number⟩

section

variable {library : SheetLibrary} (hlibrary : library.Documented)

include hlibrary

theorem namedSheet_ok {name : Option String} (h : ∀ text ∈ name, sheetNameFault? text = none) :
    ∃ sheet, namedSheet library name = .ok sheet ∧ library.cells sheet = [] := by
  cases name with
  | none => exact ⟨library.empty, rfl, hlibrary.empty⟩
  | some text =>
    obtain ⟨sheet, hsheet, hcells⟩ := hlibrary.name library.empty text (h text rfl)
    exact ⟨sheet, by rw [namedSheet, hsheet]; rfl, hcells.trans hlibrary.empty⟩

theorem setWidths_ok (sheet : library.Sheet) (column : Nat) {widths : List Nat}
    (h : column + widths.length ≤ SheetCell.columnLimit) :
    ∃ next, setWidths library sheet column widths = .ok next ∧
      library.cells next = library.cells sheet := by
  induction widths generalizing sheet column with
  | nil => exact ⟨sheet, rfl, rfl⟩
  | cons width more ih =>
    rw [List.length_cons] at h
    have hcolumn : column < SheetCell.columnLimit := by omega
    have hcheck : checkColumn column = .ok () :=
      if_neg (Nat.not_le_of_lt (Nat.lt_of_lt_of_le hcolumn (by decide)))
    obtain ⟨wider, hwider, hsame⟩ := hlibrary.width sheet column width hcolumn
    obtain ⟨next, hnext, hcells⟩ := ih wider (column + 1) (by omega)
    refine ⟨next, ?_, hcells.trans hsame⟩
    rw [setWidths, hcheck, hwider]
    exact hnext

theorem writeCell_ok (report : Report) (sheet : library.Sheet) (h : cell.FitsSheet) :
    ∃ next, writeCell library report sheet cell = .ok next ∧
      ∀ x, x ∈ library.cells next ↔
        x = shown report cell ∧ x.isVisible = true ∨
          x ∈ library.cells sheet ∧ x.place ≠ (cell.row, cell.column) := by
  have hrow : checkRow cell.row = .ok () :=
    if_neg (Nat.not_le_of_lt (Nat.lt_trans h.row (by decide)))
  have hcolumn : checkColumn cell.column = .ok () :=
    if_neg (Nat.not_le_of_lt (Nat.lt_trans h.column (by decide)))
  obtain ⟨next, hnext, hcells⟩ := hlibrary.write sheet _ (sheetCell_fits report h)
  refine ⟨next, ?_, hcells⟩
  rw [writeCell, hrow, hcolumn, hnext]
  rfl

/-- Cells that are written at different places, where there is nothing yet, are all held. -/
theorem writeCells_ok (report : Report) {cells : List Cell} (sheet : library.Sheet)
    (hfits : ∀ cell ∈ cells, cell.FitsSheet)
    (hordered : cells.Pairwise fun a b => (shown report a).isBefore (shown report b) = true)
    (hnew : ∀ x ∈ library.cells sheet, ∀ cell ∈ cells, x.place ≠ (cell.row, cell.column)) :
    ∃ next, cells.foldlM (writeCell library report) sheet = .ok next ∧
      ∀ x, x ∈ library.cells next ↔
        x ∈ library.cells sheet ∨ x ∈ (cells.map (shown report)).filter (·.isVisible) := by
  induction cells generalizing sheet with
  | nil => exact ⟨sheet, rfl, fun x => by simp⟩
  | cons cell more ih =>
    obtain ⟨hbefore, hmore⟩ := List.pairwise_cons.mp hordered
    obtain ⟨wider, hwider, hcells⟩ := writeCell_ok hlibrary report sheet (hfits cell (by simp))
    obtain ⟨next, hnext, hheld⟩ := ih wider (fun c hc => hfits c (by simp [hc])) hmore (by
      intro x hx other hother
      rcases (hcells x).mp hx with ⟨rfl, -⟩ | ⟨hx, -⟩
      · exact SheetCell.place_ne_of_isBefore (hbefore other hother)
      · exact hnew x hx other (by simp [hother]))
    refine ⟨next, ?_, fun x => ?_⟩
    · rw [List.foldlM_cons, hwider]
      exact hnext
    · rw [hheld, hcells, List.map_cons, List.mem_filter, List.mem_filter, List.mem_cons]
      have happart : x ∈ library.cells sheet → x.place ≠ (cell.row, cell.column) := fun hx =>
        hnew x hx cell (by simp)
      tauto

/-- Within the limits of a sheet there is a workbook of the report. -/
theorem build_ok {options : RenderOptions}
    (hname : ∀ name ∈ options.sheetName, sheetNameFault? name = none)
    (hwidths : report.columnWidths.length ≤ SheetCell.columnLimit)
    (hfits : ∀ cell ∈ gridCells report, cell.FitsSheet)
    (hordered : (gridCells report).Pairwise fun a b =>
      (shown report a).isBefore (shown report b) = true) :
    ∃ book, build library report options = .ok book ∧
      library.cells book.sheet = ((gridCells report).map (shown report)).filter (·.isVisible) := by
  obtain ⟨named, hnamed, hempty⟩ := namedSheet_ok hlibrary hname
  obtain ⟨wide, hwide, hsame⟩ := setWidths_ok hlibrary named 0 (by simpa using hwidths)
  rw [hempty] at hsame
  obtain ⟨sheet, hsheet, hcells⟩ := writeCells_ok hlibrary report wide hfits hordered (by simp [hsame])
  refine ⟨⟨report.title, options.author, report.description, sheet⟩, ?_, ?_⟩
  · rw [build, hnamed]
    simp only [bind, Except.bind, hwide, hsheet]
    rfl
  · have hshown : (((gridCells report).map (shown report)).filter (·.isVisible)).Pairwise
        fun a b => a.isBefore b = true := (List.pairwise_map.mpr hordered).filter _
    have hirrefl : ∀ a b : SheetCell, a.isBefore b = true → a ≠ b := fun a b hab heq =>
      SheetCell.place_ne_of_isBefore hab (heq ▸ rfl)
    refine List.Perm.eq_of_pairwise (fun a b _ _ hab hba => ?_) (hlibrary.ordered sheet) hshown
      ((List.perm_ext_iff_of_nodup ((hlibrary.ordered sheet).imp (hirrefl _ _))
        (hshown.imp (hirrefl _ _))).mpr fun x => ?_)
    · exact absurd rfl (hirrefl a a (SheetCell.isBefore_trans hab hba))
    · simpa [hsame] using hcells x

end

end Workbook

namespace Report

theorem run_definition (report : Report) (reading : Reading) (path : Option Path) :
    (report.run reading path).report.columnWidths = report.columnWidths ∧
      (report.run reading path).report.styles = report.styles := by
  have hconclude : ∀ st fault, (report.conclude st path fault).report.columnWidths =
      report.columnWidths ∧ (report.conclude st path fault).report.styles = report.styles := by
    intro st fault
    cases fault <;> exact ⟨rfl, rfl⟩
  unfold run
  split
  · exact hconclude ..
  · split
    · exact hconclude ..
    · exact hconclude ..

/-- The cells of the grid of a pass are in the order of rows, and of columns in a row. -/
theorem run_ordered {report : Report} (h : report.Sound) (reading : Reading)
    (path : Option Path) :
    (Workbook.gridCells (report.run reading path).report).Pairwise Cell.Before := by
  obtain ⟨drafts, hgroups, -⟩ := run_drawn h reading path
  rw [Workbook.gridCells, hgroups]
  exact GroupDraft.placeFrom_ordered ..

end Report

end ListingGrid
