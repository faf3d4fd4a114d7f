import ListingGrid.Proofs.Report.Geometry

/-!
# What rows are made of

A row of the grid is made of pieces, each of them a fieldset and the line that fills it. There is
more than one piece only where lines continue each other: then each piece but the last keeps the
row open, and none but the first begins a row. This holds however a pass ends.
-/

set_option autoImplicit false

namespace ListingGrid

abbrev Piece : Type := Fieldset × String

def Piece.Continued (a b : Piece) : Prop := a.1.keepInRow = true ∧ b.1.newRow = false

/-- Whether slots are those of pieces of one section that continue each other. -/
structure Slot.MadeOf (slots : List Slot) (s : Section) (pieces : List Piece) : Prop where
  ne_nil : pieces ≠ []
  fieldsets : ∀ p ∈ pieces, p.1 ∈ s.allFieldsets
  continued : pieces.IsChain Piece.Continued
  slots_eq : slots = pieces.flatMap fun p => p.1.slots p.2

def GroupDraft.Pieced (draft : GroupDraft) (sections : List Section) : Prop :=
  ∀ row ∈ draft.rows, ∃ s ∈ sections, ∃ pieces, Slot.MadeOf row.slots s pieces

def Row.Pieced (row : Row) (sections : List Section) : Prop :=
  ∃ s ∈ sections, ∃ pieces slots startRow position, Slot.MadeOf slots s pieces ∧
    row.cells = Slot.cells startRow position 0 slots

variable {sections : List Section}

theorem Section.Sound.filling {s : Section} (h : s.Sound) :
    ∀ fieldset ∈ s.allFieldsets, fieldset.Filling := by
  intro fieldset hf
  simp only [Section.allFieldsets, List.mem_append] at hf
  rcases hf with (hf | hf) | hf
  · exact (h.header fieldset hf).toFilling
  · exact h.body fieldset hf
  · exact (h.footer fieldset hf).toFilling

theorem RowDraft.special_madeOf {s : Section} {fieldsets : List Fieldset}
    (hsub : ∀ fieldset ∈ fieldsets, fieldset ∈ s.allFieldsets) (role : Role) (position : Nat) :
    ∀ row ∈ special role position fieldsets, ∃ pieces, Slot.MadeOf row.slots s pieces := by
  intro row hrow
  obtain ⟨k, hk, rfl⟩ := List.mem_mapIdx.mp hrow
  exact ⟨[(fieldsets[k], "")], by simp, by simpa using hsub _ (List.getElem_mem hk), by simp,
    by simp⟩

/-- A run of lines that continue each other makes a row of their pieces. -/
theorem StoredLine.row_madeOf {run : List StoredLine} {s : Section} (hne : run ≠ [])
    (hchain : run.IsChain fun a b => sameRow a b = true)
    (hbody : ∀ x ∈ run, x.fieldset ∈ s.body) :
    ∃ pieces, Slot.MadeOf (row run).slots s pieces := by
  refine ⟨run.map fun x => (x.fieldset, x.text), by simpa using hne, ?_, ?_, ?_⟩
  · intro p hp
    obtain ⟨x, hx, rfl⟩ := List.mem_map.mp hp
    simp [Section.allFieldsets, hbody x hx]
  · rw [List.isChain_map]
    exact hchain.imp fun a b hab => by simpa [sameRow, Piece.Continued] using hab
  · rw [List.flatMap_map]
    rfl

structure StoredLine.Within (line : StoredLine) (sections : List Section) : Prop where
  at_index : sections[line.sectionIndex]? = some line.source
  at_position : line.source.body[line.position]? = some line.fieldset

namespace GroupDraft

theorem Pieced.add {draft : GroupDraft} (h : draft.Pieced sections) {rows : List RowDraft}
    (hrows : ∀ row ∈ rows, ∃ s ∈ sections, ∃ pieces, Slot.MadeOf row.slots s pieces) :
    (draft.add rows).Pieced sections := by
  intro row hrow
  rcases List.mem_append.mp hrow with hold | hnew
  · exact h row hold
  · exact hrows row hnew

theorem opened_pieced {s : Section} (hs : s ∈ sections) (index : Nat) :
    (opened index s).Pieced sections := by
  intro row hrow
  exact ⟨s, hs, RowDraft.special_madeOf (fun f hf => by simp [Section.allFieldsets, hf]) _ _ row
    hrow⟩

theorem Pieced.ended {draft : GroupDraft} (h : draft.Pieced sections)
    (hs : draft.source ∈ sections) : draft.ended.Pieced sections := by
  refine h.add fun row hrow => ⟨draft.source, hs, ?_⟩
  exact RowDraft.special_madeOf (fun f hf => by simp [Section.allFieldsets, hf]) _ _ row hrow

end GroupDraft

namespace GroupDraft

variable {lines : List StoredLine} {first : StoredLine} {more : List StoredLine}

/-- The rows of lines of one section are of that section. -/
theorem ofRun_pieced (h : ∀ x ∈ first :: more, x.Within sections)
    (hsame : ∀ x ∈ more, x.sectionIndex = first.sectionIndex) :
    (ofRun (first :: more)).Pieced sections ∧ (ofWholeRun (first :: more)).Pieced sections := by
  have hfirst := (h first (by simp)).at_index
  have hs : first.source ∈ sections := List.mem_of_getElem? hfirst
  have hbody : ∀ x ∈ first :: more, x.fieldset ∈ first.source.body := by
    intro x hx
    have hsource : x.source = first.source := by
      rcases List.mem_cons.mp hx with rfl | hmore
      · rfl
      · have hx' := (h x hx).at_index
        rw [hsame x hmore, hfirst] at hx'
        exact (Option.some.inj hx').symm
    exact hsource ▸ List.mem_of_getElem? (h x hx).at_position
  have hopen : (ofRun (first :: more)).Pieced sections := by
    refine (opened_pieced hs _).add fun row hrow => ⟨first.source, hs, ?_⟩
    obtain ⟨run, hrun, rfl⟩ := List.mem_map.mp hrow
    refine StoredLine.row_madeOf (List.ne_nil_of_mem_splitBy hrun)
      (List.isChain_of_mem_splitBy hrun) fun x hx => hbody x ?_
    rw [← List.flatten_splitBy StoredLine.sameRow (first :: more)]
    exact List.mem_flatten_of_mem hrun hx
  exact ⟨hopen, hopen.ended hs⟩

theorem DrawnFrom.pieced {draft : GroupDraft} (h : draft.DrawnFrom lines)
    (hlines : ∀ x ∈ lines, x.Within sections) : draft.Pieced sections := by
  cases h with
  | head hline => exact opened_pieced (List.mem_of_getElem? (hlines _ hline).at_index) _
  | part hsub hsame => exact (ofRun_pieced (fun x hx => hlines x (hsub hx)) hsame).1
  | whole hsub hsame => exact (ofRun_pieced (fun x hx => hlines x (hsub hx)) hsame).2

end GroupDraft

theorem GroupDraft.placeFrom_pieced {drafts : List GroupDraft}
    (h : ∀ draft ∈ drafts, draft.Pieced sections) (index baseRow : Nat) :
    ∀ group ∈ placeFrom index baseRow drafts, ∀ row ∈ group.rows.toList, row.Pieced sections := by
  intro group hgroup row hrow
  obtain ⟨k, hk⟩ := List.mem_iff_getElem?.mp hgroup
  rw [placeFrom_getElem, Option.map_eq_some_iff] at hk
  obtain ⟨draft, hdraft, rfl⟩ := hk
  obtain ⟨j, rowDraft, hj, rfl⟩ := RowDraft.mem_placeFrom hrow
  obtain ⟨s, hs, pieces, hpieces⟩ :=
    h draft (List.mem_of_getElem? hdraft) rowDraft (List.mem_of_getElem? hj)
  exact ⟨s, hs, pieces, _, _, _, hpieces, rfl⟩

/-- However a pass ends, each row of its grid shows pieces that continue each other. -/
theorem Report.run_pieced {report : Report} (h : report.Sound) (reading : Reading)
    (path : Option Path) :
    ∀ group ∈ (report.run reading path).report.groups.toList, ∀ row ∈ group.rows.toList,
      row.Pieced report.sections := by
  obtain ⟨drafts, hgroups, hdrawn⟩ := run_drawn h reading path
  rw [hgroups]
  refine GroupDraft.placeFrom_pieced (fun draft hd => (hdrawn draft hd).pieced fun x hx => ?_) _ _
  exact ⟨(mem_storedLines hx).1, (mem_storedLines hx).2⟩

theorem Row.Pieced.cells_ne {row : Row} (h : row.Pieced sections)
    (hsound : ∀ s ∈ sections, s.Sound) : row.cells ≠ [] := by
  obtain ⟨s, hs, pieces, slots, startRow, position, hpieces, hcells⟩ := h
  obtain ⟨p, more, rfl⟩ := List.exists_cons_of_ne_nil hpieces.ne_nil
  have hslots := Fieldset.slots_ne ((hsound s hs).filling p.1 (hpieces.fieldsets p (by simp))) p.2
  rw [hcells, ← List.length_pos_iff, Slot.cells_length, hpieces.slots_eq, List.flatMap_cons,
    List.length_append]
  exact Nat.lt_of_lt_of_le (List.length_pos_iff.mpr hslots) (Nat.le_add_right ..)

end ListingGrid
