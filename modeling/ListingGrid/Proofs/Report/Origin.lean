import ListingGrid.Proofs.Report.Geometry

/-!
# Where cells come from

Every cell of the grid shows a field of the report, for a line of the listing or, in heads and
feet, for no line at all. However a pass ends, there are no other cells.
-/

set_option autoImplicit false

namespace ListingGrid

/-- Whether a slot is filled by a field of the sections from one of the texts. -/
def Slot.FilledFrom (slot : Slot) (sections : List Section) (texts : List String) : Prop :=
  ∃ s ∈ sections, ∃ fieldset ∈ s.allFieldsets, ∃ field ∈ fieldset.fields, ∃ text ∈ texts,
    slot = field.slot text

variable {sections : List Section} {texts : List String}

theorem Fieldset.slots_filledFrom {s : Section} {fieldset : Fieldset} {text : String}
    (hs : s ∈ sections) (hf : fieldset ∈ s.allFieldsets) (ht : text ∈ texts) :
    ∀ slot ∈ fieldset.slots text, slot.FilledFrom sections texts := by
  intro slot hslot
  obtain ⟨field, hfield, hrep⟩ := List.mem_flatMap.mp hslot
  exact ⟨s, hs, fieldset, hf, field, hfield, text, ht, List.eq_of_mem_replicate hrep⟩

def RowDraft.FilledFrom (draft : RowDraft) (sections : List Section) (texts : List String) : Prop :=
  ∀ slot ∈ draft.slots, slot.FilledFrom sections texts

def GroupDraft.FilledFrom (draft : GroupDraft) (sections : List Section) (texts : List String) :
    Prop :=
  ∀ row ∈ draft.rows, row.FilledFrom sections texts

theorem RowDraft.special_filledFrom {s : Section} (hs : s ∈ sections) (hempty : "" ∈ texts)
    {fieldsets : List Fieldset} (hsub : ∀ fieldset ∈ fieldsets, fieldset ∈ s.allFieldsets)
    (role : Role) (position : Nat) :
    ∀ row ∈ special role position fieldsets, row.FilledFrom sections texts := by
  intro row hrow
  obtain ⟨k, hk, rfl⟩ := List.mem_mapIdx.mp hrow
  exact Fieldset.slots_filledFrom hs (hsub _ (List.getElem_mem hk)) hempty

/-- Whether a line may fill cells: its section and its body fieldset are of the sections, and its
text is one of the texts. -/
structure StoredLine.From (line : StoredLine) (sections : List Section) (texts : List String) :
    Prop where
  source : line.source ∈ sections
  fieldset : line.fieldset ∈ line.source.body
  text : line.text ∈ texts

namespace GroupDraft

theorem FilledFrom.add {draft : GroupDraft} (h : draft.FilledFrom sections texts)
    {rows : List RowDraft} (hrows : ∀ row ∈ rows, row.FilledFrom sections texts) :
    (draft.add rows).FilledFrom sections texts := by
  intro row hrow
  rcases List.mem_append.mp hrow with hold | hnew
  · exact h row hold
  · exact hrows row hnew

theorem opened_filledFrom {s : Section} (hs : s ∈ sections) (hempty : "" ∈ texts) (index : Nat) :
    (opened index s).FilledFrom sections texts :=
  RowDraft.special_filledFrom hs hempty (fun _ hf => by simp [Section.allFieldsets, hf]) _ _

theorem FilledFrom.ended {draft : GroupDraft} (h : draft.FilledFrom sections texts)
    (hs : draft.source ∈ sections) (hempty : "" ∈ texts) :
    draft.ended.FilledFrom sections texts :=
  h.add (RowDraft.special_filledFrom hs hempty (fun _ hf => by simp [Section.allFieldsets, hf]) _ _)

end GroupDraft

namespace StoredLine

variable {lines : List StoredLine}

theorem bodyRows_filledFrom (h : ∀ x ∈ lines, x.From sections texts) :
    ∀ row ∈ bodyRows lines, row.FilledFrom sections texts := by
  intro row hrow slot hslot
  obtain ⟨run, hrun, rfl⟩ := List.mem_map.mp hrow
  obtain ⟨x, hx, hslot⟩ := List.mem_flatMap.mp hslot
  have hline := h x (by
    rw [← List.flatten_splitBy sameRow lines]
    exact List.mem_flatten_of_mem hrun hx)
  exact Fieldset.slots_filledFrom hline.source
    (by simp [Section.allFieldsets, hline.fieldset]) hline.text slot hslot

end StoredLine

namespace GroupDraft

variable {lines : List StoredLine} {first : StoredLine} {more : List StoredLine}

theorem ofRun_filledFrom (h : ∀ x ∈ first :: more, x.From sections texts) (hempty : "" ∈ texts) :
    (ofRun (first :: more)).FilledFrom sections texts ∧
      (ofWholeRun (first :: more)).FilledFrom sections texts := by
  have hsource := (h first (by simp)).source
  have hopen : (ofRun (first :: more)).FilledFrom sections texts :=
    (opened_filledFrom hsource hempty _).add (StoredLine.bodyRows_filledFrom h)
  exact ⟨hopen, hopen.ended hsource hempty⟩

theorem DrawnFrom.filledFrom {draft : GroupDraft} (h : draft.DrawnFrom lines)
    (hlines : ∀ x ∈ lines, x.From sections texts) (hempty : "" ∈ texts) :
    draft.FilledFrom sections texts := by
  cases h with
  | head hline => exact opened_filledFrom (hlines _ hline).source hempty _
  | part hsub => exact (ofRun_filledFrom (fun x hx => hlines x (hsub hx)) hempty).1
  | whole hsub => exact (ofRun_filledFrom (fun x hx => hlines x (hsub hx)) hempty).2

end GroupDraft

/-- Whether a cell shows a field of the sections for one of the texts. -/
def Cell.FilledFrom (cell : Cell) (sections : List Section) (texts : List String) : Prop :=
  ∃ (slot : Slot) (startRow : Nat), slot.FilledFrom sections texts ∧
    cell = slot.cell startRow cell.row cell.column

theorem GroupDraft.placeFrom_filledFrom {drafts : List GroupDraft}
    (h : ∀ draft ∈ drafts, draft.FilledFrom sections texts) (index baseRow : Nat) :
    ∀ cell ∈ (placeFrom index baseRow drafts).flatMap CellGroup.cells,
      cell.FilledFrom sections texts := by
  intro cell hcell
  obtain ⟨group, hgroup, hcell⟩ := List.mem_flatMap.mp hcell
  obtain ⟨row, hrow, hcell⟩ := List.mem_flatMap.mp hcell
  obtain ⟨k, hk⟩ := List.mem_iff_getElem?.mp hgroup
  rw [placeFrom_getElem, Option.map_eq_some_iff] at hk
  obtain ⟨draft, hdraft, rfl⟩ := hk
  obtain ⟨j, rowDraft, hj, rfl⟩ := RowDraft.mem_placeFrom hrow
  obtain ⟨i, hi, rfl⟩ := List.mem_mapIdx.mp hcell
  exact ⟨_, _, h draft (List.mem_of_getElem? hdraft) rowDraft (List.mem_of_getElem? hj) _
    (List.getElem_mem hi), rfl⟩

namespace Report

variable {report : Report}

theorem storedLines_from {lines : List String} {x : StoredLine} (h : x ∈ report.storedLines lines) :
    x.From report.sections ("" :: lines) := by
  obtain ⟨⟨line, fate⟩, hmem, hx⟩ := List.mem_filterMap.mp h
  obtain ⟨-, rfl, hs, hf⟩ := storedLine_spec hx
  exact ⟨List.mem_of_getElem? hs, List.mem_of_getElem? hf,
    List.mem_cons_of_mem _ (List.of_mem_zip hmem).1⟩

/-- However a pass ends, its cells show fields of the report for lines of the listing. -/
theorem run_filledFrom (h : report.Sound) (reading : Reading) (path : Option Path) :
    ∀ cell ∈ (report.run reading path).report.groups.toList.flatMap CellGroup.cells,
      cell.FilledFrom report.sections ("" :: reading.lines) := by
  obtain ⟨drafts, hgroups, hdrawn⟩ := run_drawn h reading path
  rw [hgroups]
  exact GroupDraft.placeFrom_filledFrom (fun draft hd =>
    (hdrawn draft hd).filledFrom (fun x hx => storedLines_from hx) (by simp)) _ _

end Report

end ListingGrid
