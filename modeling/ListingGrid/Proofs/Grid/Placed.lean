import ListingGrid.Proofs.Grid.Slot

/-!
# Drafts and their places

A draft of a row or of a group is all of it but its place. Groups are placed
one below the other, with a row left blank behind those whose section asks for
one; the rows of a group follow each other from its base row on, and the cells
of a row from the first column on.
-/

set_option autoImplicit false

namespace ListingGrid

structure RowDraft where
  role : Role
  fieldset : Nat
  slots : List Slot

structure GroupDraft where
  sectionIndex : Nat
  source : Section
  rows : List RowDraft

namespace RowDraft

def place (draft : RowDraft) (sectionIndex startRow row : Nat) : Row :=
  ⟨draft.role, sectionIndex, draft.fieldset, Slot.cells startRow row 0 draft.slots⟩

def placeFrom (sectionIndex startRow row : Nat) (drafts : List RowDraft) : List Row :=
  drafts.mapIdx fun j draft => draft.place sectionIndex startRow (row + j)

theorem placeFrom_append (sectionIndex startRow row : Nat) (a b : List RowDraft) :
    placeFrom sectionIndex startRow row (a ++ b) =
      placeFrom sectionIndex startRow row a ++
        placeFrom sectionIndex startRow (row + a.length) b := by
  simp only [placeFrom, List.mapIdx_append, List.append_cancel_left_eq]
  congr 1
  funext j draft
  rw [Nat.add_comm j a.length, Nat.add_assoc]

theorem placeFrom_concat (sectionIndex startRow row : Nat) (drafts : List RowDraft)
    (draft : RowDraft) :
    placeFrom sectionIndex startRow row (drafts ++ [draft]) =
      placeFrom sectionIndex startRow row drafts ++
        [draft.place sectionIndex startRow (row + drafts.length)] := by
  rw [placeFrom_append]
  simp [placeFrom]

theorem placeFrom_length (sectionIndex startRow row : Nat) (drafts : List RowDraft) :
    (placeFrom sectionIndex startRow row drafts).length = drafts.length := by
  simp [placeFrom]

theorem placeFrom_getElem (sectionIndex startRow row : Nat) (drafts : List RowDraft) (j : Nat) :
    (placeFrom sectionIndex startRow row drafts)[j]? =
      drafts[j]?.map fun draft => draft.place sectionIndex startRow (row + j) := by
  simp [placeFrom]

end RowDraft

namespace GroupDraft

def startRow (draft : GroupDraft) (baseRow : Nat) : Nat :=
  sheetRow (baseRow + draft.source.header.length)

def place (draft : GroupDraft) (index baseRow : Nat) : CellGroup :=
  ⟨index, draft.sectionIndex, baseRow, draft.source.header.length,
    (RowDraft.placeFrom draft.sectionIndex (draft.startRow baseRow) baseRow draft.rows).toArray⟩

def height (draft : GroupDraft) : Nat :=
  draft.rows.length + (if draft.source.blankRow then 1 else 0)

def heights : List GroupDraft → Nat
  | [] => 0
  | draft :: more => draft.height + heights more

def placeFrom : Nat → Nat → List GroupDraft → List CellGroup
  | _, _, [] => []
  | index, baseRow, draft :: more =>
    draft.place index baseRow :: placeFrom (index + 1) (baseRow + draft.height) more

theorem heights_append (a b : List GroupDraft) : heights (a ++ b) = heights a + heights b := by
  induction a with
  | nil => simp [heights]
  | cons draft more ih => simp [heights, ih, Nat.add_assoc]

theorem placeFrom_append (index baseRow : Nat) (a b : List GroupDraft) :
    placeFrom index baseRow (a ++ b) =
      placeFrom index baseRow a ++ placeFrom (index + a.length) (baseRow + heights a) b := by
  induction a generalizing index baseRow with
  | nil => simp [placeFrom, heights]
  | cons draft more ih =>
    simp only [List.cons_append, placeFrom, ih, heights, List.length_cons, List.cons.injEq,
      true_and]
    rw [Nat.add_assoc baseRow, Nat.add_assoc index, Nat.add_comm 1]

theorem placeFrom_concat (a : List GroupDraft) (draft : GroupDraft) :
    placeFrom 0 0 (a ++ [draft]) = placeFrom 0 0 a ++ [draft.place a.length (heights a)] := by
  rw [placeFrom_append, Nat.zero_add, Nat.zero_add]
  rfl

theorem placeFrom_length (index baseRow : Nat) (drafts : List GroupDraft) :
    (placeFrom index baseRow drafts).length = drafts.length := by
  induction drafts generalizing index baseRow with
  | nil => rfl
  | cons draft more ih => simp [placeFrom, ih]

theorem placeFrom_getElem (index baseRow : Nat) (drafts : List GroupDraft) (k : Nat) :
    (placeFrom index baseRow drafts)[k]? =
      drafts[k]?.map fun draft => draft.place (index + k) (baseRow + heights (drafts.take k)) := by
  induction drafts generalizing index baseRow k with
  | nil => simp [placeFrom]
  | cons draft more ih =>
    cases k with
    | zero => simp [placeFrom, heights]
    | succ k =>
      simp only [placeFrom, List.getElem?_cons_succ, ih, List.take_succ_cons, heights]
      rw [Nat.add_assoc baseRow, Nat.add_assoc index, Nat.add_comm 1]

def extent (drafts : List GroupDraft) : Nat :=
  heights drafts.dropLast + (drafts.getLast?.map (·.rows.length)).getD 0

theorem extent_concat (drafts : List GroupDraft) (last : GroupDraft) :
    extent (drafts ++ [last]) = heights drafts + last.rows.length := by
  simp [extent]

theorem place_size (draft : GroupDraft) (index baseRow : Nat) :
    (draft.place index baseRow).rows.size = draft.rows.length := by
  simp [place, RowDraft.placeFrom_length]

theorem place_rows (draft : GroupDraft) (index baseRow : Nat) :
    (draft.place index baseRow).rows.toList =
      RowDraft.placeFrom draft.sectionIndex (draft.startRow baseRow) baseRow draft.rows := rfl

end GroupDraft

namespace Layout

theorem nextColumn_place (i : Nat) (s : Section) (before : List RowDraft) (last : RowDraft)
    (index baseRow : Nat) :
    nextColumn ((⟨i, s, before ++ [last]⟩ : GroupDraft).place index baseRow) =
      last.slots.length := by
  have hback : ((⟨i, s, before ++ [last]⟩ : GroupDraft).place index baseRow).rows.back? =
      some (last.place i (GroupDraft.startRow ⟨i, s, before ++ [last]⟩ baseRow)
        (baseRow + before.length)) := by
    simp [GroupDraft.place, RowDraft.placeFrom_concat]
  unfold nextColumn
  rw [hback]
  rcases List.eq_nil_or_concat last.slots with h | ⟨slots, slot, h⟩
  · simp [RowDraft.place, h, Slot.cells]
  · simp [RowDraft.place, h, Slot.cells, Slot.cell]

theorem addCells_begin (draft : GroupDraft) (index baseRow : Nat) (row : RowDraft) :
    addCells (draft.place index baseRow) false row.role row.fieldset
        (Slot.cells (draft.startRow baseRow) (baseRow + draft.rows.length) 0 row.slots) =
      ({ draft with rows := draft.rows ++ [row] } : GroupDraft).place index baseRow := by
  simp [addCells, GroupDraft.place, GroupDraft.startRow, RowDraft.placeFrom_concat,
    RowDraft.place]

/-- Cells that continue a row follow those of the row. -/
theorem addCells_continue (i : Nat) (s : Section) (before : List RowDraft) (last row : RowDraft)
    (index baseRow : Nat) :
    addCells ((⟨i, s, before ++ [last]⟩ : GroupDraft).place index baseRow) true row.role
        row.fieldset
        (Slot.cells (GroupDraft.startRow ⟨i, s, before ++ [last]⟩ baseRow)
          (baseRow + before.length) last.slots.length row.slots) =
      (⟨i, s, before ++ [⟨row.role, row.fieldset, last.slots ++ row.slots⟩]⟩ : GroupDraft).place
        index baseRow := by
  simp [addCells, GroupDraft.place, GroupDraft.startRow, RowDraft.placeFrom_concat,
    RowDraft.place, Row.extend, Slot.cells_append]

end Layout

end ListingGrid
