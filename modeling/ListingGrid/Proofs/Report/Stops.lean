import ListingGrid.Proofs.Report.Runs

/-!
# Lines that stop a layout

A line with a text that has no value stops the layout at the leftmost such field.
Nothing of the line is laid out; only a group that it would have begun is there,
with its head.
-/

set_option autoImplicit false

namespace ListingGrid

namespace StoredLine

def columnAfter (lines : List StoredLine) (line : StoredLine) : Nat :=
  match lines.getLast? with
  | some last =>
    if sameSection last line && sameRow last line then
      (((runs lines).getLast?.bind fun run => (bodyRows run).getLast?).map
        (·.slots.length)).getD 0
    else 0
  | none => 0

/-- The groups of lines where the next line belongs to one of them or begins one. -/
def groupsAt (lines : List StoredLine) (line : StoredLine) : List GroupDraft :=
  if lines.getLast?.map (·.sectionIndex) = some line.sectionIndex then openGroups lines
  else groups lines ++ [GroupDraft.opened line.sectionIndex line.source]

section Forall

variable {P : GroupDraft → Prop} {lines : List StoredLine}

/-- What holds of the groups that runs of lines make, whole or not, holds of the groups of lines. -/
theorem openGroups_forall
    (h : ∀ run ∈ runs lines, P (GroupDraft.ofRun run) ∧ P (GroupDraft.ofWholeRun run)) :
    ∀ draft ∈ openGroups lines, P draft := by
  intro draft hd
  rcases List.mem_append.mp hd with hd | hd
  · obtain ⟨run, hrun, rfl⟩ := List.mem_map.mp hd
    exact (h run (List.dropLast_subset _ hrun)).2
  · obtain ⟨run, hrun, rfl⟩ := List.mem_map.mp hd
    exact (h run (List.mem_of_getLast? (Option.mem_toList.mp hrun))).1

theorem groupsAt_forall {line : StoredLine}
    (h : ∀ run ∈ runs lines, P (GroupDraft.ofRun run) ∧ P (GroupDraft.ofWholeRun run))
    (hline : P (GroupDraft.opened line.sectionIndex line.source)) :
    ∀ draft ∈ groupsAt lines line, P draft := by
  unfold groupsAt
  split
  · exact openGroups_forall h
  · intro draft hd
    rcases List.mem_append.mp hd with hd | hd
    · obtain ⟨run, hrun, rfl⟩ := List.mem_map.mp hd
      exact (h run hrun).2
    · rw [List.mem_singleton.mp hd]
      exact hline

end Forall

/-- What a line has no value for, after other lines: the leftmost field, under its
name or the column that its cell would have had. -/
def Faults (lines : List StoredLine) (line : StoredLine) (fault : ValueFault) : Prop :=
  ∃ before field after, line.fieldset.fields = before ++ field :: after ∧
    (∀ f ∈ before, f.fault? line.text = none) ∧ field.fault? line.text = some fault.cause ∧
    fault.field = Layout.fieldLabel field
      (columnAfter lines line + (Slot.ofFields line.text before).length)

end StoredLine

/-- The last row of a group that is being filled is the last one of its body. -/
theorem GroupDraft.ofRun_lastRow (first : StoredLine) (more : List StoredLine) :
    (ofRun (first :: more)).rows.getLast? = (StoredLine.bodyRows (first :: more)).getLast? := by
  have hne : StoredLine.bodyRows (first :: more) ≠ [] := by
    simp [StoredLine.bodyRows, List.splitBy_eq_nil]
  simp [ofRun, add, List.getLast?_append_of_ne_nil _ hne]

namespace Layout

variable {l : Layout} {closed : List GroupDraft} {current : GroupDraft}
  {stored : List StoredLine} {line : StoredLine}

theorem nextColumn_drafted (h : l.Drafted closed current) (hne : current.rows ≠ [])
    {group : CellGroup} (ha : l.active = some group) :
    nextColumn group = (current.rows.getLast?.map (·.slots.length)).getD 0 := by
  obtain ⟨i, s, rows⟩ := current
  obtain ⟨before, last, rfl⟩ := (List.eq_nil_or_concat' rows).resolve_left hne
  obtain rfl := Option.some.inj (h.active.symm.trans ha)
  simp [nextColumn_place]

/-- A line that has no value for a field leaves the drafts as they are. -/
theorem Drafted.store_stops (h : l.Drafted closed current) (hc : line.converts = false)
    (hcolumn : (if l.rowOpen && !line.fieldset.newRow then
        (current.rows.getLast?.map (·.slots.length)).getD 0 else 0) =
      StoredLine.columnAfter stored line) :
    ∃ l' fault, l.store .body line.position line.fieldset line.text = ⟨l', some fault⟩ ∧
      l'.Drafted closed current ∧ l'.line = l.line ∧ fault.line = l.line ∧
      StoredLine.Faults stored line fault := by
  obtain ⟨before, field, after, cause, hsplit, hb, hf⟩ := StoredLine.fault_of_not_converts hc
  cases hn : line.fieldset.newRow with
  | true =>
    have hm : (if line.fieldset.newRow then l.closeRow else l) = l.closeRow := by simp [hn]
    refine ⟨_, _, store_fault hm h.closeRow.active hsplit hb hf, h.closeRow, closeRow_line l,
      closeRow_line l, before, field, after, hsplit, hb, hf, ?_⟩
    rw [← hcolumn]
    simp [closeRow_rowOpen, hn]
  | false =>
    have hm : (if line.fieldset.newRow then l.closeRow else l) = l := by simp [hn]
    refine ⟨_, _, store_fault hm h.active hsplit hb hf, h, rfl, rfl, before, field, after,
      hsplit, hb, hf, ?_⟩
    rw [← hcolumn]
    cases ho : l.rowOpen with
    | true => simp [hn, nextColumn_drafted h (h.open_ne ho) h.active]
    | false => simp

/-- A line of the active section that has no value for a field. -/
theorem Shows.stop_same (h : l.Shows stored) (ha : l.activeSection = some line.sectionIndex)
    (hc : line.converts = false) :
    ∃ l' fault, l.store .body line.position line.fieldset line.text = ⟨l', some fault⟩ ∧
      l'.groups.toList = GroupDraft.placeFrom 0 0 (StoredLine.groupsAt stored line) ∧
      l'.line = l.line ∧ fault.line = l.line ∧ StoredLine.Faults stored line fault := by
  rw [h.activeSection] at ha
  cases h with
  | nothing hidle => simp at ha
  | @lines stored run before last hruns hlast hdraft hopen =>
    have hsame : StoredLine.sameSection last line = true := by
      simpa [hlast, StoredLine.sameSection] using ha
    have hrun : run ∈ StoredLine.runs stored := by simp [hruns]
    obtain ⟨first, more, rfl⟩ := StoredLine.runs_cons hrun
    have hrows := GroupDraft.ofRun_lastRow first more
    have hcolumn : (if l.rowOpen && !line.fieldset.newRow then
        ((GroupDraft.ofRun (first :: more)).rows.getLast?.map (·.slots.length)).getD 0 else 0) =
        StoredLine.columnAfter stored line := by
      simp [StoredLine.columnAfter, hlast, hsame, hopen, StoredLine.sameRow, hruns, hrows]
    obtain ⟨l', fault, hl', hdraft', hline, hfault⟩ := hdraft.store_stops hc hcolumn
    refine ⟨l', fault, hl', ?_, hline, hfault⟩
    rw [hdraft'.groups]
    simp [StoredLine.groupsAt, ha, StoredLine.openGroups, hruns]

/-- The first line of a group that has no value for a field leaves only the head. -/
theorem Shows.stop_first
    (h : l.Drafted (StoredLine.groups stored) (GroupDraft.opened line.sectionIndex line.source))
    (hopen : l.rowOpen = false)
    (ha : stored.getLast?.map (·.sectionIndex) ≠ some line.sectionIndex)
    (hc : line.converts = false) :
    ∃ l' fault, l.store .body line.position line.fieldset line.text = ⟨l', some fault⟩ ∧
      l'.groups.toList = GroupDraft.placeFrom 0 0 (StoredLine.groupsAt stored line) ∧
      l'.line = l.line ∧ fault.line = l.line ∧ StoredLine.Faults stored line fault := by
  have hcolumn : (if l.rowOpen && !line.fieldset.newRow then
      ((GroupDraft.opened line.sectionIndex line.source).rows.getLast?.map
        (·.slots.length)).getD 0 else 0) = StoredLine.columnAfter stored line := by
    rw [hopen, StoredLine.columnAfter]
    cases hlast : stored.getLast? with
    | none => rfl
    | some last =>
      have hother : StoredLine.sameSection last line = false := by
        simpa [hlast, StoredLine.sameSection] using ha
      simp [hother]
  obtain ⟨l', fault, hl', hdraft, hline, hfault⟩ := h.store_stops hc hcolumn
  refine ⟨l', fault, hl', ?_, hline, hfault⟩
  rw [hdraft.groups, StoredLine.groupsAt, if_neg ha]

end Layout

end ListingGrid
