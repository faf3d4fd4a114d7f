import ListingGrid.Report.Layout

/-!
# Slots

A slot is what a cell shows, wherever it stands. The fields of a line that can
be laid out fill slots, and laying them out turns slots into cells of one row in
columns that follow each other. A line that cannot be laid out is stopped by the
leftmost field whose text has no value.
-/

set_option autoImplicit false

namespace ListingGrid

/-- What a cell shows. The value is told the first body row of the group on the
sheet and the row of the cell, which formulas refer to. -/
structure Slot where
  field : Field
  raw : Option String
  value : Nat → Nat → CellValue

namespace Field

/-- Why the text that the field cuts out of a line has no value. -/
def fault? (field : Field) (line : String) : Option FormatMismatch :=
  match field.kind with
  | .extracted extraction range =>
    match extraction.transform (range.slice line) with
    | .ok _ => none
    | .error cause => some cause
  | _ => none

/-- What the cells of the field show for a line. A text that has no value leaves
its cell empty here. -/
def slot (field : Field) (line : String) : Slot :=
  match field.kind with
  | .extracted extraction range =>
    ⟨field, some (range.slice line), fun _ _ =>
      match extraction.transform (range.slice line) with
      | .ok value => value
      | .error _ => .empty⟩
  | .empty _ => ⟨field, none, fun _ _ => .empty⟩
  | .const value => ⟨field, none, fun _ _ => value.toCellValue⟩
  | .function formula =>
    ⟨field, some formula, fun startRow row =>
      .formula (String.ofList (Placeholder.resolveGroup formula.toList startRow row))⟩

def IsSpecial (field : Field) : Prop :=
  match field.kind with
  | .extracted .. => False
  | _ => True

theorem slot_field (field : Field) (line : String) : (field.slot line).field = field := by
  unfold slot
  split <;> rfl

theorem special_slot {field : Field} (h : field.IsSpecial) (line other : String) :
    field.slot line = field.slot other := by
  unfold IsSpecial at h
  unfold slot
  split
  · next hk => simp [hk] at h
  · rfl
  · rfl
  · rfl

theorem special_fault {field : Field} (h : field.IsSpecial) (line : String) :
    field.fault? line = none := by
  unfold IsSpecial at h
  unfold fault?
  split
  · next hk => simp [hk] at h
  · rfl

end Field

namespace Slot

def cell (slot : Slot) (startRow row column : Nat) : Cell :=
  ⟨row, column, slot.field, slot.raw, slot.value startRow row⟩

def ofFields (line : String) (fields : List Field) : List Slot :=
  fields.flatMap fun field => List.replicate field.width (field.slot line)

theorem ofFields_cons (line : String) (field : Field) (more : List Field) :
    ofFields line (field :: more) =
      List.replicate field.width (field.slot line) ++ ofFields line more := rfl

theorem ofFields_special (fields : List Field) (h : ∀ field ∈ fields, field.IsSpecial)
    (line other : String) : ofFields line fields = ofFields other fields := by
  induction fields with
  | nil => rfl
  | cons field more ih =>
    rw [ofFields_cons, ofFields_cons, ih fun f hf => h f (by simp [hf]),
      Field.special_slot (h field (by simp)) line other]

/-- The cells of slots in a row, from a column on. -/
def cells (startRow row column : Nat) (slots : List Slot) : List Cell :=
  slots.mapIdx fun k slot => slot.cell startRow row (column + k)

theorem cells_append (startRow row column : Nat) (a b : List Slot) :
    cells startRow row column (a ++ b) =
      cells startRow row column a ++ cells startRow row (column + a.length) b := by
  simp only [cells, List.mapIdx_append, List.append_cancel_left_eq]
  congr 1
  funext k slot
  rw [Nat.add_comm k a.length, Nat.add_assoc]

theorem cells_length (startRow row column : Nat) (slots : List Slot) :
    (cells startRow row column slots).length = slots.length := by
  simp [cells]

theorem cells_columns (startRow row column : Nat) (slots : List Slot) :
    (cells startRow row column slots).map (·.column) = List.range' column slots.length := by
  apply List.ext_getElem?
  intro k
  simp only [cells, List.getElem?_map, List.getElem?_mapIdx, Option.map_map]
  by_cases hk : k < slots.length
  · simp [hk, Slot.cell]
  · simp [hk]

theorem cells_row {startRow row column : Nat} {slots : List Slot} {cell : Cell}
    (h : cell ∈ cells startRow row column slots) : cell.row = row := by
  obtain ⟨k, hk, rfl⟩ := List.mem_mapIdx.mp h
  rfl

end Slot

namespace Layout

theorem fieldCells_slot {field : Field} {line : String} (h : field.fault? line = none)
    (row startRow column : Nat) :
    fieldCells line row startRow column field =
      .ok (Slot.cells startRow row column (List.replicate field.width (field.slot line))) := by
  have hrep : ∀ n (slot : Slot), Slot.cells startRow row column (List.replicate n slot) =
      (List.range n).map fun k => slot.cell startRow row (column + k) := by
    intro n slot
    apply List.ext_getElem?
    intro k
    simp only [Slot.cells, List.getElem?_mapIdx, List.getElem?_map, List.getElem?_replicate]
    by_cases hk : k < n <;> simp [hk]
  rw [hrep]
  unfold Field.fault? at h
  unfold fieldCells Field.width Field.slot
  cases hk : field.kind with
  | extracted extraction range =>
    simp only [hk] at h ⊢
    cases ht : extraction.transform (range.slice line) with
    | ok value => simp [Except.map, Slot.cell]
    | error cause => simp [ht] at h
  | empty count => simp [Slot.cell]
  | const value => simp [Slot.cell]
  | function formula => simp [Slot.cell]

theorem fieldCells_fault {field : Field} {line : String} {cause : FormatMismatch}
    (h : field.fault? line = some cause) (row startRow column : Nat) :
    fieldCells line row startRow column field = .error cause := by
  unfold Field.fault? at h
  unfold fieldCells
  split at h
  · next extraction range hk =>
    simp only [hk]
    split at h
    · simp at h
    · next cause' ht =>
      rw [ht, ← Option.some.inj h]
      rfl
  · simp at h

/-- Fields whose texts all have values fill their slots. -/
theorem cellsFrom_slots {line : String} {fields : List Field}
    (h : ∀ field ∈ fields, field.fault? line = none) (number row startRow column : Nat) :
    cellsFrom number line row startRow column fields =
      .ok (Slot.cells startRow row column (Slot.ofFields line fields)) := by
  induction fields generalizing column with
  | nil => rfl
  | cons field more ih =>
    have hf := fieldCells_slot (h field (by simp)) row startRow column
    have hm := ih (fun f hf => h f (by simp [hf])) (column + field.width)
    rw [cellsFrom, hf, Slot.ofFields_cons, Slot.cells_append, List.length_replicate]
    simp only [hm]
    rfl

/-- The leftmost field whose text has no value stops the line; it is named, or
else numbered by the column that its cell would have had. -/
theorem cellsFrom_fault {line : String} {before after : List Field} {field : Field}
    {cause : FormatMismatch} (hb : ∀ f ∈ before, f.fault? line = none)
    (hf : field.fault? line = some cause) (number row startRow column : Nat) :
    cellsFrom number line row startRow column (before ++ field :: after) =
      .error ⟨number, fieldLabel field (column + (Slot.ofFields line before).length), cause⟩ := by
  induction before generalizing column with
  | nil =>
    rw [List.nil_append, cellsFrom, fieldCells_fault hf]
    rfl
  | cons first more ih =>
    have hc := fieldCells_slot (hb first (by simp)) row startRow column
    have hm := ih (fun f hf => hb f (by simp [hf])) (column + first.width)
    rw [List.cons_append, cellsFrom, hc, Slot.ofFields_cons, List.length_append,
      List.length_replicate, ← Nat.add_assoc]
    simp only [hm]
    rfl

end Layout

end ListingGrid
