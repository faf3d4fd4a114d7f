import ListingGrid.Proofs.Report.Geometry

/-!
# Aborted passes

A pass over lines that fails is stopped by the first line that would be stored and
has a text without a value. The report is then as the lines before have left it,
except that a group may have been finished and another begun, with its head alone.
-/

set_option autoImplicit false

namespace ListingGrid

/-- The group with the foot of its section below its last row. -/
def CellGroup.ended (group : CellGroup) (s : Section) : CellGroup :=
  { group with
    rows := group.rows ++ (RowDraft.placeFrom group.sectionIndex (sheetRow group.startRow)
      (group.baseRow + group.rows.size) (RowDraft.special .footer 0 s.footer)).toArray }

def CellGroup.bodyRows (group : CellGroup) : List Row :=
  group.rows.toList.filter (·.role = .body)

namespace Layout

/-- The number of cells in the row that a line of a fieldset would continue. -/
def columnFor (l : Layout) (sectionIndex : Nat) (fieldset : Fieldset) : Nat :=
  if l.activeSection = some sectionIndex ∧ l.rowOpen = true ∧ fieldset.newRow = false then
    ((l.groups.toList.getLast?.bind fun group => group.rows.toList.getLast?).map
      (·.cells.length)).getD 0
  else 0

/-- The groups after a line of a section that cannot be laid out. In a group of that
section nothing happens; otherwise the group before is finished, and one is begun
below it. -/
inductive Interrupted (l : Layout) (sections : List Section) (index : Nat) (s : Section) :
    List CellGroup → Prop where
  | inside (ha : l.activeSection = some index) : Interrupted l sections index s l.groups.toList
  | first (ha : l.activeSection = none) (hg : l.groups.toList = []) :
      Interrupted l sections index s [(GroupDraft.opened index s).place 0 0]
  | next {before : List CellGroup} {last : CellGroup} {t : Section}
      (hg : l.groups.toList = before ++ [last]) (ha : l.activeSection = some last.sectionIndex)
      (hne : last.sectionIndex ≠ index) (ht : sections[last.sectionIndex]? = some t) :
      Interrupted l sections index s (before ++ [last.ended t,
        (GroupDraft.opened index s).place (before.length + 1)
          (last.baseRow + (last.ended t).rows.size + (if t.blankRow then 1 else 0))])

end Layout

/-- How a line stops a pass: `before` are the lines in front of it, `st` is the state
that they lead to, and `after` is the report after the pass. -/
structure Report.StopsAt (report : Report) (before : List String) (line : StoredLine)
    (st : PassState) (fault : ValueFault) (after : Report) : Prop where
  read : PassState.readItems report (PassState.start report.sections) (before.map .line) =
    (st, none)
  converts : ∀ x ∈ report.storedLines before, ∀ field ∈ x.fieldset.fields,
    field.fault? x.text = none
  fated : report.Fated (report.taken report.sections before) line.text
    (.stored line.sectionIndex line.position)
  source : report.sections[line.sectionIndex]? = some line.source
  fieldset : line.source.body[line.position]? = some line.fieldset
  number : fault.line = before.length + 1
  leftmost : ∃ preceding field following extraction range,
    line.fieldset.fields = preceding ++ field :: following ∧
      (∀ f ∈ preceding, f.fault? line.text = none) ∧
      field.kind = .extracted extraction range ∧
      extraction.transform (range.slice line.text) = .error fault.cause ∧
      fault.cause.value = Text.trimmed (range.slice line.text) ∧
      fault.field = field.name.getD ("field" ++ Text.naturalText
        (st.layout.columnFor line.sectionIndex line.fieldset +
          (preceding.map Field.width).foldr (· + ·) 0))
  groups : st.layout.Interrupted report.sections line.sectionIndex line.source after.groups.toList
  bodyRows : after.groups.toList.flatMap CellGroup.bodyRows =
    st.layout.groups.toList.flatMap CellGroup.bodyRows
  sections : after.sections = st.sections ∧
    st.sections = Section.marked (report.taken report.sections before) report.sections

theorem NumericFormat.toNumber_value {format : NumericFormat} {value : String}
    {cause : FormatMismatch} (h : format.toNumber value = .error cause) : cause.value = value := by
  unfold toNumber at h
  simp only at h
  split at h
  · simp at h
  · split at h
    · rw [← Except.error.inj h]
    · split at h
      · simp at h
      · rw [← Except.error.inj h]

/-- A text that has no value is told as it was trimmed. -/
theorem Extraction.transform_value {extraction : Extraction} {raw : String}
    {cause : FormatMismatch} (h : extraction.transform raw = .error cause) :
    cause.value = Text.trimmed raw := by
  unfold transform at h
  cases extraction with
  | string => simp at h
  | fixed => simp at h
  | numeric tag =>
    cases hn : tag.toNumber (Text.trimmed raw) with
    | ok number => simp [hn, Except.map] at h
    | error e =>
      simp only [hn, Except.map, Except.error.injEq] at h
      exact h ▸ NumericFormat.toNumber_value hn

theorem Field.fault_extracted {field : Field} {line : String} {cause : FormatMismatch}
    (h : field.fault? line = some cause) :
    ∃ extraction range, field.kind = .extracted extraction range ∧
      extraction.transform (range.slice line) = .error cause := by
  unfold fault? at h
  split at h
  · next extraction range hk =>
    split at h
    · simp at h
    · next e he => exact ⟨extraction, range, hk, he.trans (congrArg _ (Option.some.inj h))⟩
  · simp at h

theorem Slot.ofFields_length (line : String) (fields : List Field) :
    (ofFields line fields).length = (fields.map Field.width).foldr (· + ·) 0 := by
  induction fields with
  | nil => rfl
  | cons field more ih => simp [ofFields_cons, ih]

theorem GroupDraft.place_ended (draft : GroupDraft) (index baseRow : Nat) :
    draft.ended.place index baseRow = (draft.place index baseRow).ended draft.source := by
  unfold CellGroup.ended
  rw [place_size]
  simp [ended, add, place, RowDraft.placeFrom_append, startRow, CellGroup.startRow]

/-- The group behind a group that is finished, as far as that tells its place. -/
theorem GroupDraft.placeFrom_next (before : List GroupDraft) (last next : GroupDraft) :
    let group := last.place before.length (heights before)
    placeFrom 0 0 (before ++ [last.ended] ++ [next]) =
      placeFrom 0 0 before ++ [group.ended last.source,
        next.place ((placeFrom 0 0 before).length + 1)
          (group.baseRow + (group.ended last.source).rows.size +
            (if last.source.blankRow then 1 else 0))] := by
  intro group
  have hheights : heights (before ++ [last.ended]) =
      heights before + (last.ended.rows.length + (if last.source.blankRow then 1 else 0)) :=
    heights_append ..
  rw [placeFrom_concat, placeFrom_concat, hheights, List.append_assoc, placeFrom_length,
    ← place_ended, place_size, List.length_append, ← Nat.add_assoc]
  rfl

theorem RowDraft.special_placed {role : Role} (h : role ≠ .body) (fieldsets : List Fieldset)
    (sectionIndex startRow row : Nat) :
    (placeFrom sectionIndex startRow row (special role 0 fieldsets)).filter (·.role = .body) =
      [] := by
  rw [List.filter_eq_nil_iff]
  intro placed hplaced
  obtain ⟨j, draft, hdraft, rfl⟩ := mem_placeFrom hplaced
  have hrole := special_role (List.mem_of_getElem? hdraft)
  simpa [place, hrole] using h

theorem CellGroup.ended_bodyRows (group : CellGroup) (s : Section) :
    (group.ended s).bodyRows = group.bodyRows := by
  simp [bodyRows, ended, RowDraft.special_placed]

theorem GroupDraft.opened_bodyRows (sectionIndex : Nat) (s : Section) (index baseRow : Nat) :
    ((opened sectionIndex s).place index baseRow).bodyRows = [] := by
  rw [CellGroup.bodyRows, place_rows]
  exact RowDraft.special_placed (by decide) ..

theorem RowDraft.placeFrom_getLast (sectionIndex startRow row : Nat) (drafts : List RowDraft) :
    (placeFrom sectionIndex startRow row drafts).getLast? =
      drafts.getLast?.map fun draft =>
        draft.place sectionIndex startRow (row + (drafts.length - 1)) := by
  rw [List.getLast?_eq_getElem?, List.getLast?_eq_getElem?, placeFrom_getElem, placeFrom_length]

namespace Layout

variable {l : Layout} {stored : List StoredLine} {line : StoredLine}

/-- A line that cannot be laid out leaves no body row behind. -/
theorem Interrupted.bodyRows {sections : List Section} {index : Nat} {s : Section}
    {groups : List CellGroup} (h : l.Interrupted sections index s groups) :
    groups.flatMap CellGroup.bodyRows = l.groups.toList.flatMap CellGroup.bodyRows := by
  cases h with
  | inside ha => rfl
  | first ha hg => simp [hg, GroupDraft.opened_bodyRows]
  | next hg ha hne ht => simp [hg, CellGroup.ended_bodyRows, GroupDraft.opened_bodyRows]

/-- The groups that a line stops at, seen from the layout in front of it. -/
theorem Shows.interrupted (h : l.Shows stored) (line : StoredLine) {sections : List Section}
    (hfits : ∀ x ∈ stored, sections[x.sectionIndex]? = some x.source) :
    l.Interrupted sections line.sectionIndex line.source
      (GroupDraft.placeFrom 0 0 (StoredLine.groupsAt stored line)) := by
  have hactive := h.activeSection
  have hgroups := h.groups
  cases h with
  | nothing hidle => exact .first hactive hgroups
  | @lines stored run before last hruns hlast hdraft hopen =>
    rw [hlast, Option.map_some] at hactive
    by_cases ha : last.sectionIndex = line.sectionIndex
    · rw [StoredLine.groupsAt, if_pos (by rw [hlast, ← ha]; rfl), ← hgroups]
      exact .inside (hactive.trans (congrArg some ha))
    · have hopened : (StoredLine.openGroups stored) =
          before.map GroupDraft.ofWholeRun ++ [GroupDraft.ofRun run] := by
        simp [StoredLine.openGroups, hruns]
      have hwhole : StoredLine.groups stored =
          before.map GroupDraft.ofWholeRun ++ [(GroupDraft.ofRun run).ended] := by
        simp [StoredLine.groups, hruns, GroupDraft.ofWholeRun]
      have hother : stored.getLast?.map (·.sectionIndex) ≠ some line.sectionIndex := by
        simpa [hlast] using ha
      have hrun : run ∈ StoredLine.runs stored := by simp [hruns]
      obtain ⟨first, more, rfl⟩ := StoredLine.runs_cons hrun
      have hmem : last ∈ first :: more :=
        List.mem_of_getLast? ((getLast?_of_splitBy hruns).symm.trans hlast)
      have hsame : first.sectionIndex = last.sectionIndex :=
        StoredLine.runs_section hrun first rfl last hmem
      have hfirst := hfits first (StoredLine.mem_of_runs hrun (by simp))
      rw [hopened, GroupDraft.placeFrom_concat] at hgroups
      rw [StoredLine.groupsAt, if_neg hother, hwhole, GroupDraft.placeFrom_next]
      exact .next hgroups (hactive.trans (congrArg some hsame.symm))
        (fun h => ha (hsame.symm.trans h)) hfirst

/-- The row that a line would continue has as many cells as its last row has slots. -/
theorem Shows.columnFor_eq (h : l.Shows stored) :
    l.columnFor line.sectionIndex line.fieldset = StoredLine.columnAfter stored line := by
  have hactive := h.activeSection
  have hgroups := h.groups
  unfold columnFor StoredLine.columnAfter
  cases h with
  | nothing hidle => simp [hactive]
  | @lines stored run before last hruns hlast hdraft hopen =>
    have hrun : run ∈ StoredLine.runs stored := by simp [hruns]
    obtain ⟨first, more, rfl⟩ := StoredLine.runs_cons hrun
    have hrows := GroupDraft.ofRun_lastRow first more
    have hcells : ∀ index baseRow,
        (((GroupDraft.ofRun (first :: more)).place index baseRow).rows.toList.getLast?.map
          (·.cells.length)) =
        (StoredLine.bodyRows (first :: more)).getLast?.map (·.slots.length) := by
      intro index baseRow
      rw [GroupDraft.place_rows, RowDraft.placeFrom_getLast, hrows, Option.map_map]
      congr 1
      funext row
      exact Slot.cells_length ..
    rw [hactive, hgroups, hlast, hopen]
    simp only [StoredLine.openGroups, hruns, List.dropLast_concat, List.getLast?_concat,
      Option.toList_some, List.map_singleton, GroupDraft.placeFrom_concat, Option.bind_some]
    rw [hcells]
    by_cases hs : last.sectionIndex = line.sectionIndex <;>
      cases hk : last.fieldset.keepInRow <;> cases hn : line.fieldset.newRow <;>
        simp [StoredLine.sameSection, StoredLine.sameRow, hs, hk, hn]

end Layout

namespace Report

variable {report : Report}

/-- Lines that are stored and can all be laid out are read without a fault. -/
theorem readItems_converts (h : report.Sound) {lines : List String}
    (hc : ∀ x ∈ report.storedLines lines, x.converts = true) :
    ∃ st, PassState.readItems report (PassState.start report.sections) (lines.map .line) =
        (st, none) ∧ st.Reads report lines := by
  have hlines : (lines.map Item.line).filterMap Item.text? = lines := Reading.lines_map lines none
  rcases PassState.readItems_reads h (PassState.start_reads report) (lines.map .line) with
    ⟨st, hread, hst⟩ | ⟨before, line, after, x, st, e, hsplit, hnext, -, hst⟩
  · rw [hlines] at hst
    exact ⟨st, hread, hst⟩
  · -- The line that would stop the pass is one of the stored lines, which have values.
    have hx : x ∈ report.storedLines lines := by
      rw [← hlines, hsplit, List.append_cons]
      refine (report.storedLines_prefix (before ++ [line]) after).subset ?_
      rw [List.nil_append] at hnext
      simp [hnext]
    exact absurd (hc x hx) (by simp [hst.stuck])

/-- A line that is stored after others has the fate to be stored. -/
theorem fated_of_storedLines (h : report.Sound) {before : List String} {line : String}
    {x : StoredLine} (hx : report.storedLines (before ++ [line]) = report.storedLines before ++ [x]) :
    x.text = line ∧ report.Fated (report.taken report.sections before) x.text
      (.stored x.sectionIndex x.position) := by
  rw [storedLines_concat, List.append_cancel_left_eq] at hx
  obtain ⟨hfate, htext, -, -⟩ := storedLine_spec (Option.toList_eq_singleton_iff.mp hx)
  have hfated := fate_fated h (report.taken report.sections before) line
  rw [← after, hfate] at hfated
  exact ⟨htext, htext ▸ hfated⟩

/-- A pass over lines that fails is stopped by one of them. -/
theorem process_stopped {text : String} (h : report.IsLoaded text) {lines : List String}
    {e : ReportError} (herr : (report.process lines).outcome = .error e) :
    ∃ before line rest st fault, lines = before ++ line.text :: rest ∧
      e = .mismatch none fault.line fault.field fault.cause ∧
      report.StopsAt before line st fault (report.process lines).report := by
  have hsound := loaded_sound h
  obtain ⟨hends, hafter⟩ := run_ends hsound ⟨lines.map .line, none⟩ none
  rw [process] at herr ⊢
  generalize (report.run ⟨lines.map .line, none⟩ none) = result at herr hends hafter ⊢
  rw [herr] at hends
  generalize hgroups' : result.report.groups = groups at hends hafter
  generalize result.report.rows = rows at hends hafter
  cases hends with
  | unread hread hconverts hgroups => simp at hread
  | @stopped before rest line x fault hlines hnext hconverts hstuck hgroups hfault hline =>
    rw [Reading.lines_map] at hlines hafter
    obtain ⟨rfl, hfated⟩ := fated_of_storedLines hsound hnext
    -- Up to the line that stops the pass, the state is that of a pass which has not been stopped.
    obtain ⟨st, hread, hst⟩ := readItems_converts hsound hconverts
    have hmem : ∀ y ∈ report.storedLines (before ++ [x.text]),
        report.sections[y.sectionIndex]? = some y.source ∧
          y.source.body[y.position]? = some y.fieldset := fun y hy => mem_storedLines hy
    have hx := hmem x (by simp [hnext])
    have hinterrupted := hst.shows.interrupted x fun y hy => (mem_storedLines hy).1
    rw [← hgroups, ← hgroups'] at hinterrupted
    refine ⟨before, x, rest, st, fault, hlines, rfl, hread,
      fun y hy => StoredLine.fault_of_converts (hconverts y hy), hfated, hx.1, hx.2, hline, ?_,
      hinterrupted, hinterrupted.bodyRows, ?_, hst.sections⟩
    · obtain ⟨preceding, field, following, hsplit, hbefore, hcause, hlabel⟩ := hfault
      obtain ⟨extraction, range, hkind, htransform⟩ := Field.fault_extracted hcause
      refine ⟨preceding, field, following, extraction, range, hsplit, hbefore, hkind, htransform,
        Extraction.transform_value htransform, ?_⟩
      rw [hlabel, hst.shows.columnFor_eq, Slot.ofFields_length]
      rfl
    · rw [hafter, hst.sections, after, taken_storedLines report hsound, hlines,
        laidLines_of_stop rest hnext hconverts hstuck]

/-- The third line stops the pass: its text is no integer, and its group has only the
head. -/
theorem process_stopped_sample : ∃ (report : Report) (e : ReportError),
    report.IsLoaded sampleText ∧
    (report.process ["A1", "x", "Bx", "A2"]).outcome = .error e ∧ e.line? = some 3 ∧
    ∃ before line rest st fault, ["A1", "x", "Bx", "A2"] = before ++ StoredLine.text line :: rest ∧
      e = .mismatch none fault.line fault.field fault.cause ∧
      report.StopsAt before line st fault (report.process ["A1", "x", "Bx", "A2"]).report := by
  obtain ⟨report, hload, hcheck⟩ := exists_of_sample
    (fun report => match (report.process ["A1", "x", "Bx", "A2"]).outcome with
      | .error e => e.line? == some 3
      | .ok _ => false) (by decide +kernel)
  split at hcheck
  · next e he =>
    exact ⟨report, e, ofText_isLoaded hload, he, beq_iff_eq.mp hcheck,
      process_stopped (ofText_isLoaded hload) he⟩
  · simp at hcheck

end Report

end ListingGrid
