import ListingGrid.Proofs.Report.Outcome

/-!
# Geometry of the grid

Groups lie below each other, the rows of a group below each other, and the cells
of a row side by side, so that no place is taken twice. This holds of drafts that
are placed, and so of the grid of every pass, however it ends.
-/

set_option autoImplicit false

namespace ListingGrid

def Cell.position (cell : Cell) : Nat × Nat := (cell.row, cell.column)

def Cell.Before (a b : Cell) : Prop := a.row < b.row ∨ a.row = b.row ∧ a.column < b.column

/-- How groups lie on the sheet, and which rows they have, where they are of the
given sections. -/
structure Geometry (sections : List Section) (groups : List CellGroup) : Prop where
  index : ∀ k (group : CellGroup), groups[k]? = some group → group.index = k
  first : ∀ group : CellGroup, groups[0]? = some group → group.baseRow = 0
  next : ∀ k (group other : CellGroup), groups[k]? = some group → groups[k + 1]? = some other →
    ∃ s, sections[group.sectionIndex]? = some s ∧
      other.baseRow = group.baseRow + group.rows.size + (if s.blankRow then 1 else 0)
  headFirst : ∀ group ∈ groups, ∃ head rest, group.rows.toList = head ++ rest ∧
    (∀ row ∈ head, row.role = .header) ∧ ∀ row ∈ rest, row.role ≠ .header
  startRow : ∀ group ∈ groups, ∀ j (row : Row), group.rows.toList[j]? = some row → row.role = .body →
    (∀ i < j, ∀ other : Row, group.rows.toList[i]? = some other → other.role ≠ .body) →
    group.startRow = group.baseRow + j
  cellRow : ∀ group ∈ groups, ∀ j (row : Row), group.rows.toList[j]? = some row →
    ∀ cell ∈ row.cells, cell.row = group.baseRow + j
  columns : ∀ group ∈ groups, ∀ row ∈ group.rows.toList,
    row.cells.map (·.column) = List.range row.cells.length
  nodup : ((groups.flatMap CellGroup.cells).map Cell.position).Nodup

theorem Cell.positions_nodup {cells : List Cell} (h : cells.Pairwise Cell.Before) :
    (cells.map Cell.position).Nodup := by
  refine List.pairwise_map.mpr (h.imp fun {a b} hbefore hposition => ?_)
  have hrow : a.row = b.row := congrArg Prod.fst hposition
  have hcolumn : a.column = b.column := congrArg Prod.snd hposition
  unfold Cell.Before at hbefore
  omega

theorem Slot.cells_ordered (startRow row column : Nat) (slots : List Slot) :
    (cells startRow row column slots).Pairwise Cell.Before := by
  have hcolumns : ((cells startRow row column slots).map (·.column)).Pairwise (· < ·) :=
    (cells_columns ..).symm ▸ List.pairwise_lt_range'
  exact (List.pairwise_map.mp hcolumns).imp_of_mem fun ha hb hlt =>
    .inr ⟨(cells_row ha).trans (cells_row hb).symm, hlt⟩

namespace RowDraft

theorem mem_placeFrom {sectionIndex startRow row : Nat} {drafts : List RowDraft} {placed : Row}
    (h : placed ∈ placeFrom sectionIndex startRow row drafts) :
    ∃ j, ∃ draft : RowDraft, drafts[j]? = some draft ∧
      placed = draft.place sectionIndex startRow (row + j) := by
  obtain ⟨j, hj, rfl⟩ := List.mem_mapIdx.mp h
  exact ⟨j, drafts[j], List.getElem?_eq_getElem hj, rfl⟩

/-- Rows from a row on have their cells there or below, and above the row behind
the last of them. -/
theorem placeFrom_bounds {sectionIndex startRow row : Nat} {drafts : List RowDraft} {cell : Cell}
    (h : cell ∈ (placeFrom sectionIndex startRow row drafts).flatMap (·.cells)) :
    row ≤ cell.row ∧ cell.row < row + drafts.length := by
  obtain ⟨placed, hplaced, hcell⟩ := List.mem_flatMap.mp h
  obtain ⟨j, draft, hj, rfl⟩ := mem_placeFrom hplaced
  have hrow : cell.row = row + j := Slot.cells_row hcell
  have hlt : j < drafts.length := (List.getElem?_eq_some_iff.mp hj).1
  omega

theorem placeFrom_ordered (sectionIndex startRow row : Nat) (drafts : List RowDraft) :
    ((placeFrom sectionIndex startRow row drafts).flatMap (·.cells)).Pairwise Cell.Before := by
  induction drafts using List.reverseRecOn with
  | nil => simp [placeFrom]
  | append_singleton drafts draft ih =>
    rw [placeFrom_concat, List.flatMap_append, List.flatMap_singleton, List.pairwise_append]
    refine ⟨ih, Slot.cells_ordered .., fun a ha b hb => .inl ?_⟩
    have hlt := (placeFrom_bounds ha).2
    have hrow : b.row = row + drafts.length := Slot.cells_row hb
    omega

end RowDraft

namespace GroupDraft

theorem heights_take_succ {drafts : List GroupDraft} {k : Nat} {draft : GroupDraft}
    (h : drafts[k]? = some draft) :
    heights (drafts.take (k + 1)) = heights (drafts.take k) + draft.height := by
  rw [List.take_add_one, h, heights_append]
  rfl

/-- Groups from a row on have their cells there or below. -/
theorem placeFrom_le_row {index baseRow : Nat} {drafts : List GroupDraft} {cell : Cell}
    (h : cell ∈ (placeFrom index baseRow drafts).flatMap CellGroup.cells) :
    baseRow ≤ cell.row := by
  induction drafts generalizing index baseRow with
  | nil => simp [placeFrom] at h
  | cons draft more ih =>
    rw [placeFrom, List.flatMap_cons, List.mem_append] at h
    rcases h with h | h
    · exact (RowDraft.placeFrom_bounds h).1
    · have := ih h
      omega

theorem placeFrom_ordered (index baseRow : Nat) (drafts : List GroupDraft) :
    ((placeFrom index baseRow drafts).flatMap CellGroup.cells).Pairwise Cell.Before := by
  induction drafts generalizing index baseRow with
  | nil => simp [placeFrom]
  | cons draft more ih =>
    rw [placeFrom, List.flatMap_cons, List.pairwise_append]
    refine ⟨RowDraft.placeFrom_ordered .., ih .., fun a ha b hb => .inl ?_⟩
    have hlt := (RowDraft.placeFrom_bounds ha).2
    have hle := placeFrom_le_row hb
    have hheight : draft.rows.length ≤ draft.height := Nat.le_add_right ..
    omega

/-- Whether a draft has its head first and its foot last, and is of a section that
is among the given ones, marks apart. -/
structure InOrder (draft : GroupDraft) (sections : List Section) : Prop where
  blankRow : ∃ s, sections[draft.sectionIndex]? = some s ∧ s.blankRow = draft.source.blankRow
  rows : ∃ body foot, draft.rows = RowDraft.special .header 0 draft.source.header ++ (body ++ foot) ∧
    (∀ row ∈ body, row.role = .body) ∧ ∀ row ∈ foot, row.role = .footer

variable {draft : GroupDraft} {sections : List Section}

theorem InOrder.headFirst (h : draft.InOrder sections) (index baseRow : Nat) :
    ∃ head rest, (draft.place index baseRow).rows.toList = head ++ rest ∧
      (∀ row ∈ head, row.role = .header) ∧ ∀ row ∈ rest, row.role ≠ .header := by
  obtain ⟨body, foot, hrows, hbody, hfoot⟩ := h.rows
  rw [place_rows, hrows, RowDraft.placeFrom_append]
  refine ⟨_, _, rfl, ?_, ?_⟩
  · intro row hrow
    obtain ⟨j, d, hd, rfl⟩ := RowDraft.mem_placeFrom hrow
    exact RowDraft.special_role (List.mem_of_getElem? hd)
  · intro row hrow
    obtain ⟨j, d, hd, rfl⟩ := RowDraft.mem_placeFrom hrow
    rcases List.mem_append.mp (List.mem_of_getElem? hd) with hm | hm
    · simp [RowDraft.place, hbody d hm]
    · simp [RowDraft.place, hfoot d hm]

/-- The first body row stands directly behind the head. -/
theorem InOrder.firstBody (h : draft.InOrder sections) {j : Nat} {row : RowDraft}
    (hj : draft.rows[j]? = some row) (hrow : row.role = .body)
    (hfirst : ∀ i < j, ∀ other : RowDraft, draft.rows[i]? = some other → other.role ≠ .body) :
    j = draft.source.header.length := by
  obtain ⟨body, foot, hrows, hbody, hfoot⟩ := h.rows
  have hlen := RowDraft.special_length .header 0 draft.source.header
  rw [hrows] at hj hfirst
  by_cases hlt : j < draft.source.header.length
  · rw [List.getElem?_append_left (by omega)] at hj
    have hr := RowDraft.special_role (List.mem_of_getElem? hj)
    simp [hr] at hrow
  · -- A body row after the head makes the first row behind the head one, too.
    rw [List.getElem?_append_right (by omega), hlen] at hj
    have hne : body ≠ [] := by
      intro hnil
      rw [hnil, List.nil_append] at hj
      simp [hfoot row (List.mem_of_getElem? hj)] at hrow
    obtain ⟨first, more, rfl⟩ := List.exists_cons_of_ne_nil hne
    by_contra hne'
    refine hfirst draft.source.header.length (by omega) first ?_ (hbody first (by simp))
    rw [List.getElem?_append_right (by omega), hlen]
    simp

theorem opened_inOrder {i : Nat} {s : Section} (h : sections[i]? = some s) :
    (opened i s).InOrder sections :=
  ⟨⟨s, h, rfl⟩, [], [], by simp [opened], by simp, by simp⟩

theorem ofRun_inOrder {first : StoredLine} {more : List StoredLine}
    (h : sections[first.sectionIndex]? = some first.source) :
    (ofRun (first :: more)).InOrder sections :=
  ⟨⟨first.source, h, rfl⟩, StoredLine.bodyRows (first :: more), [], by simp [ofRun, opened, add],
    fun _ => StoredLine.bodyRows_role, by simp⟩

theorem ofWholeRun_inOrder {first : StoredLine} {more : List StoredLine}
    (h : sections[first.sectionIndex]? = some first.source) :
    (ofWholeRun (first :: more)).InOrder sections :=
  ⟨⟨first.source, h, rfl⟩, StoredLine.bodyRows (first :: more),
    RowDraft.special .footer 0 first.source.footer, by simp [ofWholeRun, ofRun, opened, add, ended],
    fun _ => StoredLine.bodyRows_role, fun _ => RowDraft.special_role⟩

/-- Drafts that are in order are placed without overlap. -/
theorem placeFrom_geometry {drafts : List GroupDraft}
    (h : ∀ draft ∈ drafts, draft.InOrder sections) :
    Geometry sections (placeFrom 0 0 drafts) := by
  have hplaced : ∀ k group, (placeFrom 0 0 drafts)[k]? = some group →
      ∃ draft : GroupDraft, drafts[k]? = some draft ∧
        group = draft.place k (heights (drafts.take k)) := by
    intro k group hk
    rw [placeFrom_getElem, Option.map_eq_some_iff] at hk
    obtain ⟨draft, hd, hg⟩ := hk
    exact ⟨draft, hd, by simpa using hg.symm⟩
  have hmem : ∀ group ∈ placeFrom 0 0 drafts, ∃ draft ∈ drafts, ∃ index baseRow,
      group = draft.place index baseRow := by
    intro group hg
    obtain ⟨k, hk⟩ := List.mem_iff_getElem?.mp hg
    obtain ⟨draft, hd, rfl⟩ := hplaced k group hk
    exact ⟨draft, List.mem_of_getElem? hd, k, _, rfl⟩
  refine ⟨?_, ?_, ?_, ?_, ?_, ?_, ?_, Cell.positions_nodup (placeFrom_ordered ..)⟩
  · intro k group hk
    obtain ⟨draft, -, rfl⟩ := hplaced k group hk
    rfl
  · intro group hk
    obtain ⟨draft, -, rfl⟩ := hplaced 0 group hk
    rfl
  · -- The height of a draft is that of its rows and of the row left blank behind them.
    intro k group other hk hother
    obtain ⟨draft, hd, rfl⟩ := hplaced k group hk
    obtain ⟨draft', -, rfl⟩ := hplaced (k + 1) other hother
    obtain ⟨s, hs, hblank⟩ := (h draft (List.mem_of_getElem? hd)).blankRow
    refine ⟨s, hs, ?_⟩
    rw [place_size, hblank, Nat.add_assoc]
    exact heights_take_succ hd
  · intro group hg
    obtain ⟨draft, hd, index, baseRow, rfl⟩ := hmem group hg
    exact (h draft hd).headFirst index baseRow
  · intro group hg j row hj hrow hfirst
    obtain ⟨draft, hd, index, baseRow, rfl⟩ := hmem group hg
    simp only [place_rows, RowDraft.placeFrom_getElem, Option.map_eq_some_iff] at hj hfirst
    obtain ⟨rowDraft, hj, rfl⟩ := hj
    have hbody := (h draft hd).firstBody hj hrow
      fun i hi other hother => hfirst i hi _ ⟨other, hother, rfl⟩
    rw [hbody]
    rfl
  · intro group hg j row hj cell hcell
    obtain ⟨draft, hd, index, baseRow, rfl⟩ := hmem group hg
    rw [place_rows, RowDraft.placeFrom_getElem, Option.map_eq_some_iff] at hj
    obtain ⟨rowDraft, -, rfl⟩ := hj
    exact Slot.cells_row hcell
  · intro group hg row hrow
    obtain ⟨draft, hd, index, baseRow, rfl⟩ := hmem group hg
    obtain ⟨j, rowDraft, -, rfl⟩ := RowDraft.mem_placeFrom hrow
    rw [RowDraft.place, Slot.cells_columns, Slot.cells_length, List.range_eq_range']

theorem extent_placeFrom (drafts : List GroupDraft) :
    extent drafts =
      ((placeFrom 0 0 drafts).getLast?.map fun group => group.baseRow + group.rows.size).getD 0 := by
  rcases List.eq_nil_or_concat' drafts with rfl | ⟨before, last, rfl⟩
  · rfl
  · rw [extent_concat, placeFrom_concat, List.getLast?_concat, Option.map_some, Option.getD_some,
      place_size]
    rfl

end GroupDraft

namespace StoredLine

variable {lines : List StoredLine} {sections : List Section}

theorem runs_inOrder (h : ∀ x ∈ lines, sections[x.sectionIndex]? = some x.source)
    {run : List StoredLine} (hrun : run ∈ runs lines) :
    (GroupDraft.ofRun run).InOrder sections ∧ (GroupDraft.ofWholeRun run).InOrder sections := by
  obtain ⟨first, more, rfl⟩ := runs_cons hrun
  have hfirst := h first (mem_of_runs hrun (by simp))
  exact ⟨GroupDraft.ofRun_inOrder hfirst, GroupDraft.ofWholeRun_inOrder hfirst⟩

theorem groups_inOrder (h : ∀ x ∈ lines, sections[x.sectionIndex]? = some x.source) :
    ∀ draft ∈ groups lines, draft.InOrder sections := by
  intro draft hd
  obtain ⟨run, hrun, rfl⟩ := List.mem_map.mp hd
  exact (runs_inOrder h hrun).2

theorem openGroups_inOrder (h : ∀ x ∈ lines, sections[x.sectionIndex]? = some x.source) :
    ∀ draft ∈ openGroups lines, draft.InOrder sections :=
  openGroups_forall fun _ => runs_inOrder h

theorem groupsAt_inOrder (h : ∀ x ∈ lines, sections[x.sectionIndex]? = some x.source)
    {line : StoredLine} (hline : sections[line.sectionIndex]? = some line.source) :
    ∀ draft ∈ groupsAt lines line, draft.InOrder sections :=
  groupsAt_forall (fun _ => runs_inOrder h) (GroupDraft.opened_inOrder hline)

end StoredLine

namespace Report

/-- However a pass ends, the groups of the report are laid out without overlap.
Where it succeeds, the row counter stands behind the last group. -/
theorem run_geometry {report : Report} {text : String} (h : report.IsLoaded text)
    (reading : Reading) (path : Option Path) :
    Geometry report.sections (report.run reading path).report.groups.toList ∧
      ∀ summary, (report.run reading path).outcome = .ok summary →
        (report.run reading path).report.rows = summary.rows ∧
        summary.rows = ((report.run reading path).report.groups.toList.getLast?.map
          fun group => group.baseRow + group.rows.size).getD 0 := by
  have hstored : ∀ lines, ∀ x ∈ report.storedLines lines,
      report.sections[x.sectionIndex]? = some x.source :=
    fun lines x hx => (mem_storedLines hx).1
  have hends := (run_ends (loaded_sound h) reading path).1
  generalize (report.run reading path).outcome = outcome at hends ⊢
  cases hends with
  | complete hread hconverts hgroups hrows =>
    rw [hgroups]
    refine ⟨GroupDraft.placeFrom_geometry (StoredLine.groups_inOrder (hstored _)), ?_⟩
    intro summary hsummary
    rw [← Except.ok.inj hsummary]
    exact ⟨rfl, hrows.trans (GroupDraft.extent_placeFrom _)⟩
  | unread hread hconverts hgroups =>
    rw [hgroups]
    exact ⟨GroupDraft.placeFrom_geometry (StoredLine.openGroups_inOrder (hstored _)), by simp⟩
  | @stopped before after line x fault hlines hnext hconverts hstuck hgroups hfault hline =>
    rw [hgroups]
    have hx := hstored (before ++ [line]) x (by simp [hnext])
    exact ⟨GroupDraft.placeFrom_geometry (StoredLine.groupsAt_inOrder (hstored _) hx), by simp⟩

theorem run_geometry_sample : ∃ report : Report, report.IsLoaded sampleText ∧
    (report.run ⟨[.line "A1", .line "B1"], none⟩ none).outcome = .ok ⟨2, 0, 0, 0, 2, 5⟩ ∧
    Geometry report.sections
      (report.run ⟨[.line "A1", .line "B1"], none⟩ none).report.groups.toList ∧
    (report.run ⟨[.line "A1", .line "B1"], none⟩ none).report.rows = 5 := by
  obtain ⟨report, hload, hcheck⟩ := exists_of_sample
    (fun report =>
      (report.run ⟨[.line "A1", .line "B1"], none⟩ none).outcome.toOption ==
        some ⟨2, 0, 0, 0, 2, 5⟩) (by decide +kernel)
  have hok := eq_ok_of_toOption (beq_iff_eq.mp hcheck)
  obtain ⟨hgeometry, hrows⟩ := run_geometry (ofText_isLoaded hload)
    ⟨[.line "A1", .line "B1"], none⟩ none
  exact ⟨report, ofText_isLoaded hload, hok, hgeometry, (hrows _ hok).1⟩

end Report

end ListingGrid
