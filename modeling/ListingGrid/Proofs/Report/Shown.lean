import ListingGrid.Proofs.Report.Outcome

/-!
# Lines in the grid

The body cells of a grid are those of the lines that its pass stored, in the order
of the lines, however the pass ended.
-/

set_option autoImplicit false

namespace ListingGrid

/-- The body cells of a group: the section, the field and the text of each. -/
def CellGroup.bodyCells (group : CellGroup) : List (Nat × Field × Option String) :=
  (group.rows.toList.filter (·.role = .body)).flatMap fun row =>
    row.cells.map fun cell => (row.sectionIndex, cell.field, cell.raw)

/-- The cells of a stored line: the section, the field and the text of each. -/
def StoredLine.cells (line : StoredLine) : List (Nat × Field × Option String) :=
  line.slots.map fun slot => (line.sectionIndex, slot.field, slot.raw)

namespace GroupDraft

/-- What the body cells of a draft show, wherever it is placed. -/
def bodyCells (draft : GroupDraft) : List (Nat × Field × Option String) :=
  (draft.rows.filter (·.role = .body)).flatMap fun row =>
    row.slots.map fun slot => (draft.sectionIndex, slot.field, slot.raw)

theorem cells_shown (sectionIndex startRow row column : Nat) (slots : List Slot) :
    (Slot.cells startRow row column slots).map (fun cell => (sectionIndex, cell.field, cell.raw)) =
      slots.map fun slot => (sectionIndex, slot.field, slot.raw) := by
  apply List.ext_getElem?
  intro k
  simp only [Slot.cells, List.getElem?_map, List.getElem?_mapIdx, Option.map_map]
  rfl

theorem place_bodyCells (draft : GroupDraft) (index baseRow : Nat) :
    (draft.place index baseRow).bodyCells = draft.bodyCells := by
  rw [CellGroup.bodyCells, place_rows, bodyCells]
  generalize draft.startRow baseRow = startRow
  induction draft.rows using List.reverseRecOn with
  | nil => rfl
  | append_singleton rows row ih =>
    rw [RowDraft.placeFrom_concat, List.filter_append, List.filter_append, List.flatMap_append,
      List.flatMap_append, ih]
    have hshown := cells_shown draft.sectionIndex startRow (baseRow + rows.length) 0 row.slots
    by_cases hrow : row.role = .body <;> simp [RowDraft.place, hrow, hshown]

theorem placeFrom_bodyCells (index baseRow : Nat) (drafts : List GroupDraft) :
    (placeFrom index baseRow drafts).flatMap CellGroup.bodyCells = drafts.flatMap bodyCells := by
  induction drafts generalizing index baseRow with
  | nil => rfl
  | cons draft more ih => rw [placeFrom, List.flatMap_cons, List.flatMap_cons, ih, place_bodyCells]

theorem special_bodyless {role : Role} (h : role ≠ .body) (position : Nat)
    (fieldsets : List Fieldset) :
    (RowDraft.special role position fieldsets).filter (·.role = .body) = [] := by
  rw [List.filter_eq_nil_iff]
  intro row hrow
  simpa [RowDraft.special_role hrow] using h

theorem opened_bodyCells (sectionIndex : Nat) (s : Section) :
    (opened sectionIndex s).bodyCells = [] := by
  rw [bodyCells, opened, special_bodyless (by decide)]
  rfl

theorem ended_bodyCells (draft : GroupDraft) : draft.ended.bodyCells = draft.bodyCells := by
  rw [bodyCells, ended, add, List.filter_append, special_bodyless (by decide), List.append_nil]
  rfl

theorem ofRun_bodyCells (run : List StoredLine) {first : StoredLine}
    (hfirst : run.head? = some first) (h : ∀ x ∈ run, first.sectionIndex = x.sectionIndex) :
    (ofRun run).bodyCells = run.flatMap StoredLine.cells := by
  have hbody : (StoredLine.bodyRows run).filter (·.role = .body) = StoredLine.bodyRows run := by
    rw [List.filter_eq_self]
    intro row hrow
    simpa using StoredLine.bodyRows_role hrow
  have hslots : (StoredLine.bodyRows run).flatMap (·.slots) = run.flatMap StoredLine.slots := by
    rw [StoredLine.bodyRows, List.flatMap_map]
    exact flatMap_splitBy StoredLine.sameRow run StoredLine.slots
  rw [ofRun_of_head hfirst, bodyCells, add, List.filter_append, opened,
    special_bodyless (by decide), hbody, List.nil_append, ← List.map_flatMap, hslots,
    List.map_flatMap]
  refine List.flatMap_congr fun x hx => ?_
  rw [h x hx]
  rfl

end GroupDraft

namespace StoredLine

variable {lines : List StoredLine}

theorem runs_bodyCells {run : List StoredLine} (h : run ∈ runs lines) :
    (GroupDraft.ofRun run).bodyCells = run.flatMap cells ∧
      (GroupDraft.ofWholeRun run).bodyCells = run.flatMap cells := by
  obtain ⟨first, more, rfl⟩ := runs_cons h
  have hrun := GroupDraft.ofRun_bodyCells (first :: more) rfl
    fun x hx => runs_section h first rfl x hx
  exact ⟨hrun, (GroupDraft.ended_bodyCells _).trans hrun⟩

theorem groups_bodyCells (lines : List StoredLine) :
    (groups lines).flatMap GroupDraft.bodyCells = lines.flatMap cells := by
  rw [groups, List.flatMap_map, ← flatMap_splitBy sameSection lines]
  exact List.flatMap_congr fun run hrun => (runs_bodyCells hrun).2

theorem openGroups_bodyCells (lines : List StoredLine) :
    (openGroups lines).flatMap GroupDraft.bodyCells = lines.flatMap cells := by
  rw [← flatMap_splitBy sameSection lines, ← runs]
  rcases List.eq_nil_or_concat' (runs lines) with hruns | ⟨before, last, hruns⟩
  · simp [openGroups, hruns]
  · have hmem : ∀ run ∈ before ++ [last], run ∈ runs lines := by simp [hruns]
    have hlast := (runs_bodyCells (hmem last (by simp))).1
    have hbefore : before.flatMap (fun run => (GroupDraft.ofWholeRun run).bodyCells) =
        before.flatMap (·.flatMap cells) :=
      List.flatMap_congr fun run hrun => (runs_bodyCells (hmem run (by simp [hrun]))).2
    simp [openGroups, hruns, List.flatMap_map, hlast, hbefore]

theorem groupsAt_bodyCells (lines : List StoredLine) (line : StoredLine) :
    (groupsAt lines line).flatMap GroupDraft.bodyCells = lines.flatMap cells := by
  unfold groupsAt
  split
  · exact openGroups_bodyCells lines
  · rw [List.flatMap_append, groups_bodyCells, List.flatMap_singleton,
      GroupDraft.opened_bodyCells, List.append_nil]

end StoredLine

/-- The body cells after a pass are those of the lines that it stored. -/
theorem Report.run_bodyCells {report : Report} (h : report.Sound) (reading : Reading)
    (path : Option Path) :
    (report.run reading path).report.groups.toList.flatMap CellGroup.bodyCells =
      (report.laidLines reading.lines).flatMap StoredLine.cells := by
  have hends := (run_ends h reading path).1
  generalize (report.run reading path).outcome = outcome at hends
  cases hends with
  | complete hread hconverts hgroups hrows =>
    rw [hgroups, GroupDraft.placeFrom_bodyCells, StoredLine.groups_bodyCells,
      laidLines_of_converts hconverts]
  | unread hread hconverts hgroups =>
    rw [hgroups, GroupDraft.placeFrom_bodyCells, StoredLine.openGroups_bodyCells,
      laidLines_of_converts hconverts]
  | stopped hlines hnext hconverts hstuck hgroups hfault hline =>
    rw [hgroups, GroupDraft.placeFrom_bodyCells, StoredLine.groupsAt_bodyCells, hlines,
      laidLines_of_stop _ hnext hconverts hstuck]

end ListingGrid
