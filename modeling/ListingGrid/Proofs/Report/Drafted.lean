import ListingGrid.Proofs.Grid.Placed
import ListingGrid.Proofs.Report.Loaded

/-!
# Layouts of drafts

While a pass runs, its layout shows drafts: those of the groups that are finished
and, where a group is being filled, one more. The row counter stands behind the
last row, or on it while it is kept open. Each operation on the layout is an
operation on drafts.
-/

set_option autoImplicit false

namespace ListingGrid

namespace RowDraft

def special (role : Role) (position : Nat) (fieldsets : List Fieldset) :
    List RowDraft :=
  fieldsets.mapIdx fun k fieldset => ⟨role, position + k, fieldset.slots ""⟩

theorem special_cons (role : Role) (position : Nat) (fieldset : Fieldset)
    (more : List Fieldset) :
    special role position (fieldset :: more) =
      ⟨role, position, fieldset.slots ""⟩ :: special role (position + 1) more := by
  simp only [special, List.mapIdx_cons, Nat.add_zero, List.cons.injEq, true_and]
  congr 1
  funext k fieldset
  rw [Nat.add_assoc, Nat.add_comm 1]

theorem special_role {role : Role} {position : Nat} {fieldsets : List Fieldset} {row : RowDraft}
    (h : row ∈ special role position fieldsets) : row.role = role := by
  obtain ⟨k, hk, rfl⟩ := List.mem_mapIdx.mp h
  rfl

theorem special_length (role : Role) (position : Nat) (fieldsets : List Fieldset) :
    (special role position fieldsets).length = fieldsets.length := by
  simp [special]

end RowDraft

namespace GroupDraft

def opened (sectionIndex : Nat) (source : Section) : GroupDraft :=
  ⟨sectionIndex, source, RowDraft.special .header 0 source.header⟩

def add (draft : GroupDraft) (rows : List RowDraft) : GroupDraft :=
  { draft with rows := draft.rows ++ rows }

def ended (draft : GroupDraft) : GroupDraft :=
  draft.add (RowDraft.special .footer 0 draft.source.footer)

end GroupDraft

namespace Layout

structure Drafted (l : Layout) (closed : List GroupDraft) (current : GroupDraft) : Prop where
  finished : l.finished.toList = GroupDraft.placeFrom 0 0 closed
  active : l.active = some (current.place closed.length (GroupDraft.heights closed))
  row : l.row + l.rowOpen.toNat = GroupDraft.heights closed + current.rows.length
  open_ne : l.rowOpen = true → current.rows ≠ []

structure Idle (l : Layout) (closed : List GroupDraft) : Prop where
  finished : l.finished.toList = GroupDraft.placeFrom 0 0 closed
  active : l.active = none
  row : l.row = GroupDraft.heights closed
  rowOpen : l.rowOpen = false

variable {l : Layout} {closed : List GroupDraft} {current : GroupDraft}

theorem start_idle : start.Idle [] := ⟨rfl, rfl, rfl, rfl⟩

theorem groups_size (l : Layout) : l.groups.size = l.groupCount := by
  unfold groups groupCount
  cases l.active <;> simp

theorem Drafted.groups (h : l.Drafted closed current) :
    l.groups.toList = GroupDraft.placeFrom 0 0 (closed ++ [current]) := by
  simp [Layout.groups, h.active, h.finished, GroupDraft.placeFrom_concat]

theorem Idle.groups (h : l.Idle closed) : l.groups.toList = GroupDraft.placeFrom 0 0 closed := by
  simp [Layout.groups, h.active, h.finished]

theorem Idle.finished_size (h : l.Idle closed) : l.finished.size = closed.length := by
  rw [← Array.length_toList, h.finished, GroupDraft.placeFrom_length]

theorem Idle.groupCount (h : l.Idle closed) : l.groupCount = closed.length := by
  simp [Layout.groupCount, h.active, h.finished_size]

theorem closeRow_rowOpen (l : Layout) : l.closeRow.rowOpen = false := by
  unfold closeRow
  split
  · rfl
  · next h => simpa using h

theorem closeRow_line (l : Layout) : l.closeRow.line = l.line := by
  unfold closeRow
  split <;> rfl

theorem closeRow_of_closed (h : l.rowOpen = false) : l.closeRow = l := by
  simp [closeRow, h]

theorem Drafted.closeRow (h : l.Drafted closed current) : l.closeRow.Drafted closed current := by
  cases ho : l.rowOpen with
  | false => rwa [closeRow_of_closed ho]
  | true =>
    have hrow := h.row
    simp only [ho, Bool.toNat_true] at hrow
    constructor <;> simp [Layout.closeRow, ho, h.finished, h.active, hrow]

/-- A line whose texts all have values is laid out in the row at hand. -/
theorem store_cells {m : Layout} {group : CellGroup} {role : Role} {position : Nat}
    {fieldset : Fieldset} {line : String}
    (hm : (if fieldset.newRow then l.closeRow else l) = m) (ha : m.active = some group)
    (hf : ∀ field ∈ fieldset.fields, field.fault? line = none) (hs : fieldset.slots line ≠ []) :
    l.store role position fieldset line =
      ⟨{ m with
          active := some (addCells group m.rowOpen role position
            (Slot.cells (sheetRow group.startRow) m.row
              (if m.rowOpen then nextColumn group else 0) (fieldset.slots line)))
          rowOpen := fieldset.keepInRow
          row := if fieldset.keepInRow then m.row else m.row + 1 }, none⟩ := by
  have hne : ∀ startRow row column,
      (Slot.cells startRow row column (fieldset.slots line)).isEmpty = false := by
    intro startRow row column
    rw [List.isEmpty_eq_false_iff, ← List.length_pos_iff, Slot.cells_length]
    exact List.length_pos_iff.mpr hs
  unfold store
  simp only [hm, ha, cellsFrom_slots hf]
  rw [show Slot.ofFields line fieldset.fields = fieldset.slots line from rfl, hne]
  cases fieldset.keepInRow <;> simp

theorem store_fault {m : Layout} {group : CellGroup} {role : Role} {position : Nat}
    {fieldset : Fieldset} {line : String} {before after : List Field} {field : Field}
    {cause : FormatMismatch}
    (hm : (if fieldset.newRow then l.closeRow else l) = m) (ha : m.active = some group)
    (hsplit : fieldset.fields = before ++ field :: after)
    (hb : ∀ f ∈ before, f.fault? line = none) (hf : field.fault? line = some cause) :
    l.store role position fieldset line =
      ⟨m, some ⟨m.line, fieldLabel field ((if m.rowOpen then nextColumn group else 0) +
        (Slot.ofFields line before).length), cause⟩⟩ := by
  unfold store
  simp only [hm, ha, hsplit, cellsFrom_fault hb hf]

theorem store_begins (h : l.Drafted closed current) (role : Role) (position : Nat)
    {fieldset : Fieldset} {line : String} (ho : l.rowOpen = false ∨ fieldset.newRow = true)
    (hf : ∀ field ∈ fieldset.fields, field.fault? line = none) (hs : fieldset.slots line ≠ []) :
    ∃ l', l.store role position fieldset line = ⟨l', none⟩ ∧
      l'.Drafted closed (current.add [⟨role, position, fieldset.slots line⟩]) ∧
      l'.rowOpen = fieldset.keepInRow ∧ l'.line = l.line := by
  have hm : (if fieldset.newRow then l.closeRow else l) = l.closeRow := by
    rcases ho with ho | ho
    · rw [closeRow_of_closed ho, ite_self]
    · rw [if_pos ho]
  have hc := h.closeRow
  have hopen := closeRow_rowOpen l
  have hrow : l.closeRow.row = GroupDraft.heights closed + current.rows.length := by
    simpa [hopen] using hc.row
  refine ⟨_, store_cells hm hc.active hf hs, ⟨hc.finished, ?_, ?_, ?_⟩, rfl, closeRow_line l⟩
  · rw [hopen, hrow]
    exact congrArg some (addCells_begin current closed.length (GroupDraft.heights closed)
      ⟨role, position, fieldset.slots line⟩)
  · cases fieldset.keepInRow <;> simp [hrow, GroupDraft.add, Nat.add_assoc]
  · simp [GroupDraft.add]

/-- Storing a line where a row is open continues it, unless the fieldset starts
a row. -/
theorem store_continues {i : Nat} {s : Section} {before : List RowDraft} {last : RowDraft}
    (h : l.Drafted closed ⟨i, s, before ++ [last]⟩) (role : Role) (position : Nat)
    {fieldset : Fieldset} {line : String} (ho : l.rowOpen = true)
    (hn : fieldset.newRow = false)
    (hf : ∀ field ∈ fieldset.fields, field.fault? line = none) (hs : fieldset.slots line ≠ []) :
    ∃ l', l.store role position fieldset line = ⟨l', none⟩ ∧
      l'.Drafted closed
        ⟨i, s, before ++ [⟨role, position, last.slots ++ fieldset.slots line⟩]⟩ ∧
      l'.rowOpen = fieldset.keepInRow ∧ l'.line = l.line := by
  have hm : (if fieldset.newRow then l.closeRow else l) = l := by simp [hn]
  have hrow : l.row = GroupDraft.heights closed + before.length := by
    have := h.row
    simp only [ho, Bool.toNat_true, List.length_append, List.length_singleton] at this
    omega
  refine ⟨_, store_cells hm h.active hf hs, ⟨h.finished, ?_, ?_, ?_⟩, rfl, rfl⟩
  · rw [ho, if_pos rfl, hrow, nextColumn_place]
    exact congrArg some (addCells_continue i s before last ⟨role, position, fieldset.slots line⟩
      closed.length (GroupDraft.heights closed))
  · cases fieldset.keepInRow <;> simp [hrow, Nat.add_assoc]
  · simp

/-- The rows of a head or a foot are laid out one below the other. -/
theorem storeAll_special (h : l.Drafted closed current) (ho : l.rowOpen = false) (role : Role)
    (line : String) (position : Nat) {fieldsets : List Fieldset}
    (hs : ∀ fieldset ∈ fieldsets, fieldset.IsSpecial) :
    ∃ l', l.storeAll role line position fieldsets = ⟨l', none⟩ ∧
      l'.Drafted closed (current.add (RowDraft.special role position fieldsets)) ∧
      l'.rowOpen = false ∧ l'.line = l.line := by
  induction fieldsets generalizing l current position with
  | nil => exact ⟨l, rfl, by simpa [RowDraft.special, GroupDraft.add] using h, ho, rfl⟩
  | cons fieldset more ih =>
    have hf := hs fieldset (by simp)
    obtain ⟨m, hm, hdraft, hopen, hline⟩ := store_begins h role position (.inl ho)
      (fun field hfield => Field.special_fault (hf.special field hfield) line)
      (Fieldset.slots_ne hf.toFilling line)
    rw [Fieldset.special_slots hf line ""] at hdraft
    obtain ⟨l', hl', hdraft', hopen', hline'⟩ :=
      ih hdraft (hopen.trans hf.keepInRow) (position + 1) fun f hm => hs f (by simp [hm])
    refine ⟨l', ?_, ?_, hopen', hline'.trans hline⟩
    · rw [storeAll, hm]
      exact hl'
    · rw [RowDraft.special_cons]
      simpa [GroupDraft.add] using hdraft'

theorem openGroup_drafted (h : l.Idle closed) (index : Nat) {s t : Section} (line : String)
    (hs : s.header = t.header) (hh : ∀ fieldset ∈ t.header, fieldset.IsSpecial) :
    ∃ l', l.openGroup index s line = ⟨l', none⟩ ∧
      l'.Drafted closed (GroupDraft.opened index t) ∧ l'.rowOpen = false ∧ l'.line = l.line := by
  have hbase : ({ l with active := some ⟨l.groupCount, index, l.row, s.header.length, #[]⟩ } :
      Layout).Drafted closed ⟨index, t, []⟩ := by
    refine ⟨h.finished, ?_, ?_, ?_⟩
    · simp [GroupDraft.place, RowDraft.placeFrom, h.groupCount, h.row, hs]
    · simp [h.row, h.rowOpen]
    · simp [h.rowOpen]
  obtain ⟨l', hl', hdraft, hopen, hline⟩ :=
    storeAll_special hbase h.rowOpen .header line 0 hh
  refine ⟨l', ?_, by simpa [GroupDraft.opened, GroupDraft.add] using hdraft, hopen, hline⟩
  rw [openGroup, hs, hl'.symm, hs]

/-- Closing a group lays out its foot and, if another group follows, leaves a row
blank behind it where its section asks for one. -/
theorem closeGroup_ended (h : l.Drafted closed current) {sections : List Section} {s : Section}
    (line : String) (followed : Bool) (hs : sections[current.sectionIndex]? = some s)
    (hfoot : s.footer = current.source.footer) (hblank : s.blankRow = current.source.blankRow)
    (hf : ∀ fieldset ∈ current.source.footer, fieldset.IsSpecial) :
    ∃ l', l.closeGroup sections line followed = ⟨l', none⟩ ∧
      l'.finished.toList = GroupDraft.placeFrom 0 0 (closed ++ [current.ended]) ∧
      l'.active = none ∧ l'.rowOpen = false ∧ l'.line = l.line ∧
      l'.row = GroupDraft.heights closed + current.ended.rows.length +
        (if followed && current.source.blankRow then 1 else 0) := by
  obtain ⟨m, hm, hdraft, hopen, hline⟩ :=
    storeAll_special h.closeRow (closeRow_rowOpen l) .footer line 0 hf
  have hrow : m.row = GroupDraft.heights closed + current.ended.rows.length := by
    have := hdraft.row
    rwa [hopen, Bool.toNat_false, Nat.add_zero] at this
  refine ⟨{ m with
    row := if followed && current.source.blankRow then m.row + 1 else m.row
    finished := m.groups
    active := none }, ?_, hdraft.groups, rfl, hopen, hline.trans (closeRow_line l), ?_⟩
  · unfold closeGroup
    rw [h.active]
    simp only [GroupDraft.place, hs, hfoot, hm, hblank]
  · simp only [hrow]
    split <;> rfl

theorem closeGroup_followed (h : l.Drafted closed current) {sections : List Section} {s : Section}
    (line : String) (hs : sections[current.sectionIndex]? = some s)
    (hfoot : s.footer = current.source.footer) (hblank : s.blankRow = current.source.blankRow)
    (hf : ∀ fieldset ∈ current.source.footer, fieldset.IsSpecial) :
    ∃ l', l.closeGroup sections line true = ⟨l', none⟩ ∧
      l'.Idle (closed ++ [current.ended]) ∧ l'.line = l.line := by
  obtain ⟨l', hl', hfin, hact, hopen, hline, hrow⟩ :=
    closeGroup_ended h line true hs hfoot hblank hf
  refine ⟨l', hl', ⟨hfin, hact, ?_, hopen⟩, hline⟩
  rw [hrow, GroupDraft.heights_append, Nat.add_assoc]
  rfl

theorem closeGroup_idle (h : l.Idle closed) (sections : List Section) (line : String)
    (followed : Bool) : l.closeGroup sections line followed = ⟨l, none⟩ := by
  simp [closeGroup, h.active]

end Layout

end ListingGrid
