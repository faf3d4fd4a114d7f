import ListingGrid.Proofs.Report.Geometry
import ListingGrid.Proofs.Report.PassReading

/-!
# Totals

The numbers that a group puts into its formulas enclose its body: the first one is
that of the first body row, and in the first row of the foot the second one is
that of the last body row. A range between the two covers the rows of the body and
no others, whatever was laid out before.
-/

set_option autoImplicit false

namespace ListingGrid

/-- Whether the body of a group takes the rows from `first` to `last`, both counted
from 1, and no others. -/
structure CellGroup.BodySpans (group : CellGroup) (first last : Nat) : Prop where
  ordered : first ≤ last
  rows : ∀ n, first ≤ n ∧ n ≤ last ↔ ∃ (j : Nat) (row : Row),
    group.rows.toList[j]? = some row ∧ row.role = .body ∧ n = sheetRow (group.baseRow + j)

/-- Whether a cell of a formula shows it with these numbers for the first body row
and for the row above the cell. -/
def Cell.RefersTo (cell : Cell) (startRow rows : Nat) : Prop :=
  ∀ formula, cell.field.kind = .function formula → cell.stored =
    .formula (String.ofList (Placeholder.resolveGroup formula.toList startRow rows))

/-- Whether the formulas of a group know its body. Counted from 1, the row above a
cell has the number that the cell's own row has counted from 0. -/
structure CellGroup.Totals (group : CellGroup) (first last : Nat) : Prop where
  body : group.BodySpans first last
  place : ∀ (j : Nat) (row : Row), group.rows.toList[j]? = some row →
    ∀ cell ∈ row.cells, cell.row = group.baseRow + j
  formula : ∀ row ∈ group.rows.toList, ∀ cell ∈ row.cells, cell.RefersTo first cell.row
  firstFooter : ∀ (j : Nat) (row : Row), group.rows.toList[j]? = some row → row.role = .footer →
    (∀ i < j, ∀ other : Row, group.rows.toList[i]? = some other → other.role ≠ .footer) →
    ∀ cell ∈ row.cells, cell.RefersTo first last

theorem exists_of_mem_right {α β : Type} {R : α → β → Prop} {l : List α} {m : List β}
    (h : List.Forall₂ R l m) {b : β} (hb : b ∈ m) : ∃ a ∈ l, R a b := by
  induction h with
  | nil => simp at hb
  | @cons a b' l m hR _ ih =>
    rcases List.mem_cons.mp hb with rfl | hb
    · exact ⟨a, by simp, hR⟩
    · obtain ⟨a', ha', hR'⟩ := ih hb
      exact ⟨a', by simp [ha'], hR'⟩

theorem Cell.Fills.refersTo {cell : Cell} {startRow : Nat} {line : String} {field : Field}
    (h : cell.Fills startRow line field) : cell.RefersTo startRow cell.row := by
  obtain ⟨hfield, hshown⟩ := h
  intro formula hkind
  rw [← hfield, hkind] at hshown
  exact hshown.2

theorem Cell.Fill.refersTo {startRow : Nat} {own : List (String × Field)} {cells : List Cell}
    (h : Cell.Fill startRow own cells) : ∀ cell ∈ cells, cell.RefersTo startRow cell.row := by
  intro cell hcell
  obtain ⟨o, -, ho⟩ := exists_of_mem_right h hcell
  exact ho.refersTo

theorem roles_of_shows {α : Type} {R : α → Row → Prop} {role : Role} {l : List α} {rows : List Row}
    (h : List.Forall₂ R l rows) (hrole : ∀ a row, R a row → row.role = role) :
    rows.map (·.role) = List.replicate l.length role := by
  rw [h.length_eq, ← List.length_map, List.eq_replicate_length]
  intro r hr
  obtain ⟨row, hrow, rfl⟩ := List.mem_map.mp hr
  obtain ⟨a, -, ha⟩ := exists_of_mem_right h hrow
  exact hrole a row ha

namespace CellGroup

variable {group : CellGroup} {s : Section} {run : List StoredLine}

theorem Shows.refersTo (h : group.Shows s run) : ∀ row ∈ group.rows.toList,
    ∀ cell ∈ row.cells, cell.RefersTo (sheetRow group.startRow) cell.row := by
  obtain ⟨head, body, foot, hrows, hhead, hbody, hfoot, -⟩ := h.rows
  intro row hrow
  rw [hrows, List.mem_append, List.mem_append] at hrow
  rcases hrow with (hrow | hrow) | hrow
  · obtain ⟨p, -, hp⟩ := exists_of_mem_right hhead hrow
    exact hp.cells.refersTo
  · obtain ⟨lines, -, last, -, hlast⟩ := exists_of_mem_right hbody hrow
    exact hlast.cells.refersTo
  · obtain ⟨p, -, hp⟩ := exists_of_mem_right hfoot hrow
    exact hp.cells.refersTo

/-- Whether the rows of a group are a head of `head` rows, a body of `body` rows and
a foot. -/
def Parts (group : CellGroup) (head body : Nat) : Prop :=
  ∃ foot, group.rows.toList.map (·.role) = List.replicate head .header ++
    (List.replicate body .body ++ List.replicate foot .footer)

theorem Shows.parts (h : group.Shows s run) (hrun : run ≠ []) :
    ∃ head body, 0 < body ∧ group.Parts head body := by
  obtain ⟨head, body, foot, hrows, hhead, hbody, hfoot, -⟩ := h.rows
  have hpos : 0 < (run.splitBy StoredLine.sameRow).length := by
    rwa [List.length_pos_iff, ne_eq, List.splitBy_eq_nil]
  refine ⟨s.header.zipIdx.length, _, hpos, s.footer.zipIdx.length, ?_⟩
  rw [hrows, List.append_assoc, List.map_append, List.map_append,
    roles_of_shows hhead fun _ _ h => h.role, roles_of_shows hbody fun _ _ ⟨_, _, h⟩ => h.role,
    roles_of_shows hfoot fun _ _ h => h.role]

variable {head body : Nat}

theorem Parts.role (h : group.Parts head body) {j : Nat} {row : Row}
    (hj : group.rows.toList[j]? = some row) :
    row.role = if j < head then .header else if j < head + body then .body else .footer := by
  obtain ⟨foot, hroles⟩ := h
  have hrole : (group.rows.toList.map (·.role))[j]? = some row.role := by simp [hj]
  simp only [hroles, List.getElem?_append, List.length_replicate, List.getElem?_replicate] at hrole
  grind

theorem Parts.body_row (h : group.Parts head body) {j : Nat} (hge : head ≤ j)
    (hlt : j < head + body) : ∃ row, group.rows.toList[j]? = some row ∧ row.role = .body := by
  have hlength : j < group.rows.toList.length := by
    obtain ⟨foot, hroles⟩ := h
    have := congrArg List.length hroles
    simp only [List.length_map, List.length_append, List.length_replicate] at this
    omega
  have hj := List.getElem?_eq_getElem hlength
  exact ⟨_, hj, by rw [h.role hj, if_neg (by omega), if_pos hlt]⟩

/-- The first body row is the first row behind the head. -/
theorem Parts.startRow {sections : List Section} {groups : List CellGroup}
    (h : group.Parts head body) (hbody : 0 < body) (hg : Geometry sections groups)
    (hmem : group ∈ groups) : group.startRow = group.baseRow + head := by
  obtain ⟨row, hj, hrole⟩ := h.body_row (le_refl head) (by omega)
  refine hg.startRow group hmem head row hj hrole fun i hi other hother => ?_
  rw [h.role hother, if_pos hi]
  simp

theorem Parts.bodySpans (h : group.Parts head body) (hbody : 0 < body) :
    group.BodySpans (sheetRow (group.baseRow + head)) (group.baseRow + head + body) := by
  refine ⟨by unfold sheetRow; omega, fun n => ⟨fun ⟨hge, hle⟩ => ?_, ?_⟩⟩
  · unfold sheetRow at hge
    obtain ⟨row, hj, hrole⟩ := h.body_row (j := n - 1 - group.baseRow) (by omega) (by omega)
    exact ⟨_, row, hj, hrole, by unfold sheetRow; omega⟩
  · rintro ⟨j, row, hj, hrole, rfl⟩
    rw [h.role hj] at hrole
    unfold sheetRow
    grind

theorem Parts.firstFooter (h : group.Parts head body) {j : Nat} {row : Row}
    (hj : group.rows.toList[j]? = some row) (hrole : row.role = .footer)
    (hfirst : ∀ i < j, ∀ other : Row, group.rows.toList[i]? = some other → other.role ≠ .footer) :
    j = head + body := by
  have hge : head + body ≤ j := by
    rw [h.role hj] at hrole
    grind
  by_contra hne
  have hj' := List.getElem?_eq_getElem (l := group.rows.toList) (i := head + body)
    (by have := (List.getElem?_eq_some_iff.mp hj).1; omega)
  exact hfirst _ (by omega) _ hj' (by rw [h.role hj', if_neg (by omega), if_neg (by omega)])

/-- The formulas of a group that shows lines know its body. -/
theorem Shows.totals (h : group.Shows s run) (hrun : run ≠ []) {sections : List Section}
    {groups : List CellGroup} (hg : Geometry sections groups) (hmem : group ∈ groups) :
    ∃ first last, group.Totals first last := by
  obtain ⟨head, body, hbody, hparts⟩ := h.parts hrun
  have hstart := hparts.startRow hbody hg hmem
  have hrefers := h.refersTo
  rw [hstart] at hrefers
  refine ⟨_, _, hparts.bodySpans hbody, hg.cellRow group hmem, hrefers, ?_⟩
  intro j row hj hrole hfirst cell hcell
  have hrow := hg.cellRow group hmem j row hj cell hcell
  rw [hparts.firstFooter hj hrole hfirst, ← Nat.add_assoc] at hrow
  rw [← hrow]
  exact hrefers row (List.mem_of_getElem? hj) cell hcell

end CellGroup

namespace Report

variable {report : Report}

/-- In every group of a pass that succeeds the formulas know the body of the group. -/
theorem process_totals {text : String} (h : report.IsLoaded text) {lines : List String}
    {summary : PassSummary} (hok : (report.process lines).outcome = .ok summary) :
    ∀ group ∈ (report.process lines).report.groups.toList,
      ∃ first last, group.Totals first last := by
  have hsound := loaded_sound h
  obtain ⟨hconverts, hgroups, -⟩ := process_complete hsound hok
  rw [hgroups]
  have hgeometry := GroupDraft.placeFrom_geometry (StoredLine.groups_inOrder
    fun x (hx : x ∈ report.storedLines lines) => (mem_storedLines hx).1)
  intro group hgroup
  obtain ⟨run, hrun, s, -, hshows⟩ := exists_of_mem_right (groups_show hsound hconverts) hgroup
  obtain ⟨first, more, rfl⟩ := StoredLine.runs_cons hrun
  exact hshows.totals (by simp) hgeometry hgroup

theorem process_totals_sample : ∃ report : Report, report.IsLoaded sampleText ∧
    (report.process ["A1", "B1", "B2"]).outcome = .ok ⟨3, 0, 0, 0, 2, 6⟩ ∧
    (∃ cell ∈ (report.process ["A1", "B1", "B2"]).report.groups.toList.flatMap CellGroup.cells,
      cell.row = 5 ∧ cell.stored = .formula "=SUM(A4:A5)") ∧
    ∀ group ∈ (report.process ["A1", "B1", "B2"]).report.groups.toList,
      ∃ first last, group.Totals first last := by
  obtain ⟨report, hload, hcheck⟩ := exists_of_sample
    (fun report => (report.process ["A1", "B1", "B2"]).outcome.toOption ==
        some ⟨3, 0, 0, 0, 2, 6⟩ &&
      ((report.process ["A1", "B1", "B2"]).report.groups.toList.flatMap CellGroup.cells).any
        fun cell => cell.row == 5 && cell.stored == .formula "=SUM(A4:A5)") (by decide +kernel)
  rw [Bool.and_eq_true] at hcheck
  have hok := eq_ok_of_toOption (beq_iff_eq.mp hcheck.1)
  refine ⟨report, ofText_isLoaded hload, hok, ?_,
    process_totals (ofText_isLoaded hload) hok⟩
  simpa only [List.any_eq_true, Bool.and_eq_true, beq_iff_eq] using hcheck.2

end Report

end ListingGrid
