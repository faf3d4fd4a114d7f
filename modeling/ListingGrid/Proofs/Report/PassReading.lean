import ListingGrid.Proofs.Report.Outcome
import Mathlib.Data.List.Forall2

/-!
# What a pass means

A pass can be read without its state: which lines are stored, how they run
together in groups and rows, and what their cells show. A pass that succeeds does
what this reading says.
-/

set_option autoImplicit false

namespace ListingGrid

def Cell.Fills (cell : Cell) (startRow : Nat) (line : String) (field : Field) : Prop :=
  cell.field = field ∧
    match field.kind with
    | .extracted extraction range =>
      cell.raw = some (range.slice line) ∧
        extraction.transform (range.slice line) = .ok cell.stored
    | .empty _ => cell.raw = none ∧ cell.stored = .empty
    | .const value => cell.raw = none ∧ cell.stored = value.toCellValue
    | .function formula =>
      cell.raw = some formula ∧ cell.stored =
        .formula (String.ofList (Placeholder.resolveGroup formula.toList startRow cell.row))

def Cell.Fill (startRow : Nat) (own : List (String × Field)) (cells : List Cell) : Prop :=
  List.Forall₂ (fun o cell => cell.Fills startRow o.1 o.2) own cells

def Fieldset.own (fieldset : Fieldset) (line : String) : List (String × Field) :=
  fieldset.fields.flatMap fun field => List.replicate field.width (line, field)

def StoredLine.own (line : StoredLine) : List (String × Field) := line.fieldset.own line.text

/-- Whether a row of a group has a role and shows what fields make of lines. -/
structure Row.Shows (row : Row) (group : CellGroup) (role : Role) (fieldset : Nat)
    (own : List (String × Field)) : Prop where
  role : row.role = role
  sectionIndex : row.sectionIndex = group.sectionIndex
  fieldset : row.fieldset = fieldset
  cells : Cell.Fill (sheetRow group.startRow) own row.cells

/-- Whether a group is what a run of lines makes of a section. -/
structure CellGroup.Shows (group : CellGroup) (s : Section) (run : List StoredLine) : Prop where
  section_eq : ∀ x ∈ run, x.sectionIndex = group.sectionIndex
  rows : ∃ head body foot, group.rows.toList = head ++ body ++ foot ∧
    List.Forall₂ (fun (p : Fieldset × Nat) row => row.Shows group .header p.2 (p.1.own ""))
      s.header.zipIdx head ∧
    List.Forall₂ (fun lines (row : Row) => ∃ last : StoredLine, lines.getLast? = some last ∧
        row.Shows group .body last.position (lines.flatMap StoredLine.own))
      (run.splitBy StoredLine.sameRow) body ∧
    List.Forall₂ (fun (p : Fieldset × Nat) row => row.Shows group .footer p.2 (p.1.own ""))
      s.footer.zipIdx foot ∧
    Cell.Fill (sheetRow group.startRow) (run.flatMap StoredLine.own) (body.flatMap (·.cells))

/-- What a pass over lines makes of them: what becomes of each, the counters and
the groups. -/
structure Report.PassReading (report : Report) (lines : List String) (fates : List LineFate)
    (summary : PassSummary) (groups : List CellGroup) : Prop where
  length : fates.length = lines.length
  fated : ∀ k line fate, lines[k]? = some line → fates[k]? = some fate →
    report.Fated ((fates.take k).filterMap LineFate.section?) line fate
  excluded : summary.excluded = fates.count .excluded
  unmatched : summary.unmatched = fates.count .unmatched
  skipped : summary.skipped = fates.countP LineFate.isSkipped
  stored : (report.storedFrom lines fates).length = fates.countP LineFate.isStored
  total : summary.lines = lines.length ∧ summary.lines =
    summary.excluded + summary.unmatched + summary.skipped + fates.countP LineFate.isStored
  count : summary.groups = groups.length
  groups : List.Forall₂ (fun run (group : CellGroup) =>
      ∃ s, report.sections[group.sectionIndex]? = some s ∧ group.Shows s run)
    (StoredLine.runs (report.storedFrom lines fates)) groups

theorem Field.slot_fills {field : Field} {line : String} (h : field.fault? line = none)
    (startRow row column : Nat) :
    ((field.slot line).cell startRow row column).Fills startRow line field := by
  refine ⟨Field.slot_field field line, ?_⟩
  unfold Field.fault? at h
  unfold Field.slot
  cases hk : field.kind with
  | extracted extraction range =>
    simp only [hk] at h
    cases ht : extraction.transform (range.slice line) with
    | ok value => exact ⟨rfl, by simp [Slot.cell, ht]⟩
    | error cause => simp [ht] at h
  | empty count => exact ⟨rfl, rfl⟩
  | const value => exact ⟨rfl, rfl⟩
  | function formula => exact ⟨rfl, rfl⟩

def Slot.ofOwn (own : String × Field) : Slot := own.2.slot own.1

theorem Fieldset.slots_own (fieldset : Fieldset) (line : String) :
    fieldset.slots line = (fieldset.own line).map Slot.ofOwn := by
  simp [Fieldset.slots, Slot.ofFields, Fieldset.own, List.map_flatMap, Slot.ofOwn]

theorem Fieldset.own_fault {fieldset : Fieldset} {line : String}
    (h : ∀ field ∈ fieldset.fields, field.fault? line = none) :
    ∀ o ∈ fieldset.own line, o.2.fault? o.1 = none := by
  intro o ho
  obtain ⟨field, hfield, hrep⟩ := List.mem_flatMap.mp ho
  rw [List.eq_of_mem_replicate hrep]
  exact h field hfield

theorem StoredLine.slots_own (lines : List StoredLine) :
    lines.flatMap StoredLine.slots = (lines.flatMap StoredLine.own).map Slot.ofOwn := by
  rw [List.map_flatMap]
  congr 1
  funext line
  exact line.fieldset.slots_own line.text

/-- Slots of fields that have values become cells that show them. -/
theorem Slot.cells_fill {own : List (String × Field)}
    (h : ∀ o ∈ own, o.2.fault? o.1 = none) (startRow row column : Nat) :
    Cell.Fill startRow own (Slot.cells startRow row column (own.map Slot.ofOwn)) := by
  induction own generalizing column with
  | nil => exact .nil
  | cons o more ih =>
    have hcells := Slot.cells_append startRow row column [Slot.ofOwn o] (more.map Slot.ofOwn)
    rw [List.map_cons, show Slot.ofOwn o :: more.map Slot.ofOwn =
      [Slot.ofOwn o] ++ more.map Slot.ofOwn from rfl, hcells]
    exact .cons (Field.slot_fills (h o (by simp)) ..) (ih (fun p hp => h p (by simp [hp])) _)

/-- What holds of each draft of a row wherever it is placed holds of the placed rows. -/
theorem RowDraft.placeFrom_forall {α : Type} {R : α → Row → Prop} {f : α → RowDraft}
    {sectionIndex startRow : Nat} {l : List α}
    (h : ∀ a ∈ l, ∀ row, R a ((f a).place sectionIndex startRow row)) (row : Nat) :
    List.Forall₂ R l (placeFrom sectionIndex startRow row (l.map f)) := by
  induction l generalizing row with
  | nil => exact .nil
  | cons a more ih =>
    have hplace := placeFrom_append sectionIndex startRow row [f a] (more.map f)
    rw [List.map_cons, show f a :: more.map f = [f a] ++ more.map f from rfl, hplace]
    exact .cons (h a (by simp) _) (ih (fun b hb => h b (by simp [hb])) _)

theorem GroupDraft.placeFrom_forall {α : Type} {R : α → CellGroup → Prop} {f : α → GroupDraft}
    {l : List α} (h : ∀ a ∈ l, ∀ index baseRow, R a ((f a).place index baseRow))
    (index baseRow : Nat) : List.Forall₂ R l (placeFrom index baseRow (l.map f)) := by
  induction l generalizing index baseRow with
  | nil => exact .nil
  | cons a more ih => exact .cons (h a (by simp) _ _) (ih (fun b hb => h b (by simp [hb])) _ _)

theorem RowDraft.special_zipIdx (role : Role) (fieldsets : List Fieldset) :
    special role 0 fieldsets = fieldsets.zipIdx.map fun p => ⟨role, p.2, p.1.slots ""⟩ := by
  simp [special, List.mapIdx_eq_zipIdx_map]

namespace CellGroup

/-- The rows of a head or a foot, wherever they are placed. -/
theorem special_shows (group : CellGroup) (role : Role) {fieldsets : List Fieldset}
    (h : ∀ fieldset ∈ fieldsets, fieldset.IsSpecial) (row : Nat) :
    List.Forall₂ (fun (p : Fieldset × Nat) row => row.Shows group role p.2 (p.1.own ""))
      fieldsets.zipIdx
      (RowDraft.placeFrom group.sectionIndex (sheetRow group.startRow) row
        (RowDraft.special role 0 fieldsets)) := by
  rw [RowDraft.special_zipIdx]
  refine RowDraft.placeFrom_forall (fun p hp row => ⟨rfl, rfl, rfl, ?_⟩) row
  have hspecial := h p.1 (List.fst_mem_of_mem_zipIdx hp)
  have hfault : ∀ o ∈ p.1.own "", o.2.fault? o.1 = none :=
    Fieldset.own_fault fun field hfield => Field.special_fault (hspecial.special field hfield) ""
  rw [RowDraft.place, p.1.slots_own]
  exact Slot.cells_fill hfault _ _ _

theorem body_shows (group : CellGroup) {run : List StoredLine}
    (h : ∀ x ∈ run, x.converts = true) (row : Nat) :
    List.Forall₂ (fun lines (row : Row) => ∃ last : StoredLine, lines.getLast? = some last ∧
        row.Shows group .body last.position (lines.flatMap StoredLine.own))
      (run.splitBy StoredLine.sameRow)
      (RowDraft.placeFrom group.sectionIndex (sheetRow group.startRow) row
        (StoredLine.bodyRows run)) := by
  refine RowDraft.placeFrom_forall (fun lines hlines row => ?_) row
  have hne := List.ne_nil_of_mem_splitBy hlines
  have hlast := List.getLast?_eq_some_getLast hne
  refine ⟨lines.getLast hne, hlast, rfl, rfl, by simp [StoredLine.row, RowDraft.place, hlast], ?_⟩
  have hfault : ∀ o ∈ lines.flatMap StoredLine.own, o.2.fault? o.1 = none := by
    intro o ho
    obtain ⟨x, hx, hox⟩ := List.mem_flatMap.mp ho
    have hrun : x ∈ run := by
      rw [← List.flatten_splitBy StoredLine.sameRow run]
      exact List.mem_flatten_of_mem hlines hx
    exact Fieldset.own_fault (StoredLine.fault_of_converts (h x hrun)) o hox
  rw [RowDraft.place, StoredLine.row, StoredLine.slots_own]
  exact Slot.cells_fill hfault _ _ _

end CellGroup

/-- A run of lines that have values makes a group that shows it. -/
theorem GroupDraft.ofWholeRun_shows {run : List StoredLine} {first : StoredLine}
    (hfirst : run.head? = some first) (hrun : ∀ x ∈ run, first.sectionIndex = x.sectionIndex)
    (hsound : first.source.Sound) (hc : ∀ x ∈ run, x.converts = true) (index baseRow : Nat) :
    ((ofWholeRun run).place index baseRow).Shows first.source run := by
  have hdraft : ofWholeRun run = ⟨first.sectionIndex, first.source,
      RowDraft.special .header 0 first.source.header ++ StoredLine.bodyRows run ++
        RowDraft.special .footer 0 first.source.footer⟩ := by
    rw [ofWholeRun, ofRun_of_head hfirst]
    rfl
  rw [hdraft]
  set group := (⟨first.sectionIndex, first.source, _⟩ : GroupDraft).place index baseRow with hgroup
  let place := RowDraft.placeFrom group.sectionIndex (sheetRow group.startRow)
  obtain ⟨a, b, c, hrows⟩ : ∃ a b c, group.rows.toList =
      place a (RowDraft.special .header 0 first.source.header) ++
        place b (StoredLine.bodyRows run) ++
        place c (RowDraft.special .footer 0 first.source.footer) := by
    rw [hgroup, place_rows, RowDraft.placeFrom_append, RowDraft.placeFrom_append]
    exact ⟨_, _, _, rfl⟩
  have hbody := group.body_shows hc
  refine ⟨fun x hx => (hrun x hx).symm, _, _, _, hrows, group.special_shows .header hsound.header _,
    hbody _, group.special_shows .footer hsound.footer _, ?_⟩
  rw [← flatMap_splitBy StoredLine.sameRow]
  exact List.rel_flatMap (hbody _) fun lines row h => h.choose_spec.2.cells

namespace Report

variable {report : Report}

/-- The runs of stored lines and the groups that they make. -/
theorem groups_show (h : report.Sound) {lines : List String}
    (hc : ∀ x ∈ report.storedLines lines, x.converts = true) :
    List.Forall₂ (fun run (group : CellGroup) =>
        ∃ s, report.sections[group.sectionIndex]? = some s ∧ group.Shows s run)
      (StoredLine.runs (report.storedLines lines))
      (GroupDraft.placeFrom 0 0 (StoredLine.groups (report.storedLines lines))) := by
  refine GroupDraft.placeFrom_forall (fun run hrun index baseRow => ?_) 0 0
  obtain ⟨first, more, rfl⟩ := StoredLine.runs_cons hrun
  have hmem := fun x (hx : x ∈ first :: more) => StoredLine.mem_of_runs hrun hx
  have hs := (mem_storedLines (hmem first (by simp))).1
  exact ⟨first.source, hs, GroupDraft.ofWholeRun_shows rfl
    (fun x hx => StoredLine.runs_section hrun first rfl x hx)
    (h.sections _ (List.mem_of_getElem? hs)) (fun x hx => hc x (hmem x hx)) index baseRow⟩

/-- A pass that succeeds does what its lines mean. -/
theorem process_reading {text : String} (h : report.IsLoaded text) {lines : List String}
    {summary : PassSummary} (hok : (report.process lines).outcome = .ok summary) :
    ∃ fates, report.PassReading lines fates summary
      (report.process lines).report.groups.toList := by
  have hsound := loaded_sound h
  obtain ⟨hconverts, hgroups, rfl⟩ := process_complete hsound hok
  refine ⟨report.fates report.sections lines, report.fates_length _ _, ?_, rfl, rfl, rfl,
    storedLines_length hsound lines, ⟨rfl, ?_⟩, rfl, ?_⟩
  · intro k line fate hline hfate
    exact fates_fated hsound hline hfate
  · rw [← fates_counts, fates_length]
  · rw [hgroups]
    exact groups_show hsound hconverts

theorem process_reading_sample : ∃ (report : Report) (fates : List LineFate),
    report.IsLoaded sampleText ∧
    (report.process ["A1", "B1", "A2", "x", "B2"]).outcome = .ok ⟨5, 0, 1, 1, 2, 6⟩ ∧
    report.PassReading ["A1", "B1", "A2", "x", "B2"] fates ⟨5, 0, 1, 1, 2, 6⟩
      (report.process ["A1", "B1", "A2", "x", "B2"]).report.groups.toList := by
  obtain ⟨report, hload, hcheck⟩ := exists_of_sample
    (fun report => (report.process ["A1", "B1", "A2", "x", "B2"]).outcome.toOption ==
      some ⟨5, 0, 1, 1, 2, 6⟩) (by decide +kernel)
  have hok := eq_ok_of_toOption (beq_iff_eq.mp hcheck)
  obtain ⟨fates, hreading⟩ := process_reading (ofText_isLoaded hload) hok
  exact ⟨report, fates, ofText_isLoaded hload, hok, hreading⟩

end Report

end ListingGrid
