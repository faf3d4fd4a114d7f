import ListingGrid.Proofs.Report.Outcome

/-!
# Passes over longer listings

A pass goes forward only. What it has laid out for the first lines of a listing stays where it
is when more lines follow: groups that another group follows stay as they are, and in the last
one rows are added below its body. Of the rows that were there, only the last body row may get
further cells, if it was kept open.
-/

set_option autoImplicit false

namespace ListingGrid

def Row.LeftOpen (row : Row) (sections : List Section) : Prop :=
  ∃ s fieldset, sections[row.sectionIndex]? = some s ∧ s.body[row.fieldset]? = some fieldset ∧
    fieldset.keepInRow = true

/-- How a group is found in the pass over a longer listing: its head and its body are there, and
only the last body row may have got cells. -/
structure CellGroup.GrowsInto (sections : List Section) (group longer : CellGroup) : Prop where
  index : longer.index = group.index
  sectionIndex : longer.sectionIndex = group.sectionIndex
  baseRow : longer.baseRow = group.baseRow
  headerRows : longer.headerRows = group.headerRows
  rows : ∀ j (row : Row), group.rows.toList[j]? = some row → row.role ≠ .footer →
    ∃ grown : Row, longer.rows.toList[j]? = some grown ∧ grown.role = row.role ∧
      row.cells <+: grown.cells ∧
      (grown.cells ≠ row.cells → row.role = .body ∧ row.LeftOpen sections ∧
        ∀ (k : Nat) (next : Row), j < k → group.rows.toList[k]? = some next → next.role ≠ .body)

/-- How the groups of a pass are found in the pass over a longer listing. -/
structure CellGroup.Kept (sections : List Section) (first second : List CellGroup) : Prop where
  followed : ∀ k (group : CellGroup), k + 1 < first.length → first[k]? = some group → second[k]? = some group
  grows : ∀ (k : Nat) (group : CellGroup), first[k]? = some group →
    ∃ longer : CellGroup, second[k]? = some longer ∧ group.GrowsInto sections longer

namespace CellGroup

variable {sections : List Section}

theorem GrowsInto.refl (group : CellGroup) : group.GrowsInto sections group where
  index := rfl
  sectionIndex := rfl
  baseRow := rfl
  headerRows := rfl
  rows _ row hrow _ := ⟨row, hrow, rfl, List.prefix_rfl, fun h => absurd rfl h⟩

/-- Groups are kept when the last of them grows and others follow it. -/
theorem Kept.concat {closed : List CellGroup} {group longer : CellGroup}
    (h : group.GrowsInto sections longer) (after : List CellGroup) :
    Kept sections (closed ++ [group]) (closed ++ longer :: after) where
  followed k g hk hg := by
    have hlt : k < closed.length := by simpa using hk
    rw [List.getElem?_append_left hlt] at hg ⊢
    exact hg
  grows k g hg := by
    rcases Nat.lt_or_ge k closed.length with hlt | hge
    · rw [List.getElem?_append_left hlt] at hg ⊢
      exact ⟨g, hg, .refl g⟩
    · rw [List.getElem?_append_right hge] at hg ⊢
      obtain ⟨hzero, rfl⟩ : k - closed.length = 0 ∧ group = g := by
        simpa [List.getElem?_singleton] using hg
      exact ⟨longer, by rw [hzero]; rfl, h⟩

end CellGroup

/-- Behind a list more items may continue its last run, where its last item lets them, and begin
further runs. -/
theorem splitBy_append_grows {α : Type} {r : α → α → Bool} {l : List α} {before : List (List α)}
    {last : List α} (hl : l.splitBy r = before ++ [last]) (more : List α) :
    ∃ extra after, (l ++ more).splitBy r = before ++ (last ++ extra) :: after ∧
      (extra ≠ [] → ∃ x y, last.getLast? = some x ∧ r x y = true) := by
  induction more using List.reverseRecOn with
  | nil => exact ⟨[], [], by simp [hl], by simp⟩
  | append_singleton more a ih =>
    obtain ⟨extra, after, hsplit, hopen⟩ := ih
    rw [← List.append_assoc]
    by_cases ha : ∀ x ∈ (l ++ more).getLast?, r x a = true
    · rcases List.eq_nil_or_concat' after with rfl | ⟨rest, run, rfl⟩
      · refine ⟨extra ++ [a], [], by simpa using splitBy_concat_same hsplit ha, fun _ => ?_⟩
        by_cases he : extra = []
        · -- The item is the first that continues the run, so it follows the last of the list.
          subst he
          rw [List.append_nil] at hsplit
          have hne : last ≠ [] := List.ne_nil_of_mem_splitBy (r := r) (l := l) (by simp [hl])
          have hlast := List.getLast?_eq_some_getLast hne
          exact ⟨_, a, hlast, ha _ ((getLast?_of_splitBy hsplit).trans hlast)⟩
        · exact hopen he
      · have hrun : (l ++ more).splitBy r = (before ++ (last ++ extra) :: rest) ++ [run] := by
          simp [hsplit]
        exact ⟨extra, rest ++ [run ++ [a]], by simpa using splitBy_concat_same hrun ha, hopen⟩
    · refine ⟨extra, after ++ [[a]], ?_, hopen⟩
      rw [splitBy_concat_new ?_, hsplit]
      · simp
      · intro x hx
        simp only [Option.mem_def] at ha hx
        simpa [hx] using ha

namespace StoredLine

variable {run : List StoredLine}

/-- Lines behind a run may continue its last row, if that was kept open, and add rows. -/
theorem bodyRows_append (hne : run ≠ []) (more : List StoredLine) :
    ∃ before last slots position rest x, bodyRows run = before ++ [last] ∧
      bodyRows (run ++ more) = before ++ ⟨.body, position, last.slots ++ slots⟩ :: rest ∧
      run.getLast? = some x ∧ last.fieldset = x.position ∧ last.role = .body ∧
      (slots ≠ [] → x.fieldset.keepInRow = true) := by
  rcases List.eq_nil_or_concat' (run.splitBy sameRow) with hrows | ⟨before, lines, hrows⟩
  · exact absurd (List.splitBy_eq_nil.mp hrows) hne
  · obtain ⟨extra, after, hsplit, hopen⟩ := splitBy_append_grows hrows more
    have hlast := getLast?_of_splitBy hrows
    have hx := List.getLast?_eq_some_getLast hne
    refine ⟨before.map row, row lines, extra.flatMap (·.slots), (row (lines ++ extra)).fieldset,
      after.map row, _, by simp [bodyRows, hrows], by simp [bodyRows, hsplit, row], hx, ?_, rfl, ?_⟩
    · simp [row, ← hlast, hx]
    · intro hslots
      obtain ⟨x, y, hlines, hxy⟩ := hopen fun he => hslots (by simp [he])
      rw [← hlast, hx] at hlines
      obtain rfl := Option.some.inj hlines
      simp only [sameRow, Bool.and_eq_true] at hxy
      exact hxy.1

end StoredLine

namespace GroupDraft

variable {sections : List Section} {run : List StoredLine}

/-- The rows of a group that a run makes: head, body and foot. -/
theorem ofWholeRun_rows {first : StoredLine} (h : run.head? = some first) :
    ofWholeRun run = ⟨first.sectionIndex, first.source,
      RowDraft.special .header 0 first.source.header ++ StoredLine.bodyRows run ++
        RowDraft.special .footer 0 first.source.footer⟩ := by
  rw [ofWholeRun, ofRun_of_head h]
  rfl

/-- The group of a run is found in the group of a longer run at the same place. -/
theorem ofWholeRun_grows (hne : run ≠ []) (more : List StoredLine)
    (hs : ∀ x ∈ run, sections[x.sectionIndex]? = some x.source ∧
      x.source.body[x.position]? = some x.fieldset)
    (hrun : ∀ first ∈ run.head?, ∀ x ∈ run, first.sectionIndex = x.sectionIndex)
    (index baseRow : Nat) :
    ((ofWholeRun run).place index baseRow).GrowsInto sections
      ((ofWholeRun (run ++ more)).place index baseRow) := by
  obtain ⟨first, others, rfl⟩ := List.exists_cons_of_ne_nil hne
  have hself : (first :: others).head? = some first := rfl
  have hhead : (first :: others ++ more).head? = some first := rfl
  obtain ⟨before, last, slots, position, rest, x, hbody, hlonger, hx, hposition, hrole, hopen⟩ :=
    StoredLine.bodyRows_append hne more
  have hmem := List.mem_of_getLast? hx
  have hfoot : ∀ draft ∈ RowDraft.special .footer 0 first.source.footer, draft.role = .footer :=
    fun _ => RowDraft.special_role
  rw [ofWholeRun_rows hself, ofWholeRun_rows hhead, hbody, hlonger]
  generalize RowDraft.special .footer 0 first.source.footer = foot at hfoot ⊢
  generalize hfront : RowDraft.special .header 0 first.source.header ++ before = front
  simp only [← List.append_assoc, hfront]
  simp only [List.append_assoc, List.cons_append, List.nil_append]
  have hbehind : ∀ j draft, front.length < j → (front ++ last :: foot)[j]? = some draft →
      draft.role = .footer := by
    intro j draft hj hdraft
    obtain ⟨k, rfl⟩ := Nat.exists_eq_add_of_lt hj
    rw [List.getElem?_append_right (by omega), show front.length + k + 1 - front.length = k + 1 by
      omega, List.getElem?_cons_succ] at hdraft
    exact hfoot draft (List.mem_of_getElem? hdraft)
  refine ⟨rfl, rfl, rfl, rfl, ?_⟩
  intro j row hj hrow
  rw [place_rows, RowDraft.placeFrom_getElem, Option.map_eq_some_iff] at hj
  obtain ⟨draft, hdraft, rfl⟩ := hj
  simp only [place_rows, RowDraft.placeFrom_getElem]
  rcases Nat.lt_trichotomy j front.length with hlt | rfl | hgt
  · rw [List.getElem?_append_left hlt] at hdraft ⊢
    exact ⟨_, by rw [hdraft]; rfl, rfl, List.prefix_rfl, fun h => absurd rfl h⟩
  · obtain rfl : last = draft := by simpa using hdraft
    refine ⟨_, by rw [List.getElem?_append_right (Nat.le_refl _), Nat.sub_self]; rfl, hrole.symm,
      ?_, fun hgained => ⟨hrole, ?_, ?_⟩⟩
    · simp only [RowDraft.place, Slot.cells_append]
      exact List.prefix_append ..
    · have hslots : slots ≠ [] := by
        rintro rfl
        exact hgained (by simp [RowDraft.place, startRow])
      exact ⟨x.source, x.fieldset, by simpa [RowDraft.place, hrun first rfl x hmem] using (hs x hmem).1,
        by simpa [RowDraft.place, hposition] using (hs x hmem).2, hopen hslots⟩
    · intro k next hk hnext
      obtain ⟨draft, hdraft, rfl⟩ := Option.map_eq_some_iff.mp hnext
      simp [RowDraft.place, hbehind k draft hk hdraft]
  · exact absurd (hbehind j draft hgt hdraft) hrow

end GroupDraft

/-- The groups of lines are kept when more lines follow them. -/
theorem StoredLine.groups_kept {sections : List Section} {lines : List StoredLine}
    (more : List StoredLine)
    (hs : ∀ x ∈ lines, sections[x.sectionIndex]? = some x.source ∧
      x.source.body[x.position]? = some x.fieldset) :
    CellGroup.Kept sections (GroupDraft.placeFrom 0 0 (groups lines))
      (GroupDraft.placeFrom 0 0 (groups (lines ++ more))) := by
  rcases List.eq_nil_or_concat' (runs lines) with hruns | ⟨before, run, hruns⟩
  · have hnone : groups lines = [] := by simp [groups, hruns]
    rw [hnone]
    exact ⟨by simp [GroupDraft.placeFrom], by simp [GroupDraft.placeFrom]⟩
  · obtain ⟨extra, after, hsplit, -⟩ := splitBy_append_grows hruns more
    have hmem : run ∈ runs lines := by simp [hruns]
    have hfirst : groups lines = before.map GroupDraft.ofWholeRun ++ [GroupDraft.ofWholeRun run] := by
      simp [groups, hruns]
    have hsecond : groups (lines ++ more) = before.map GroupDraft.ofWholeRun ++
        GroupDraft.ofWholeRun (run ++ extra) :: after.map GroupDraft.ofWholeRun := by
      simp [groups, runs, hsplit]
    rw [hfirst, hsecond, GroupDraft.placeFrom_concat, GroupDraft.placeFrom_append, Nat.zero_add,
      Nat.zero_add]
    exact CellGroup.Kept.concat (GroupDraft.ofWholeRun_grows (List.ne_nil_of_mem_splitBy hmem) extra
      (fun x hx => hs x (mem_of_runs hmem hx)) (runs_section hmem) ..) _

namespace Report

variable {report : Report}

/-- What a pass has laid out is kept by the pass over a listing with further lines. -/
theorem process_kept {text : String} (h : report.IsLoaded text) {lines more : List String}
    {first second : PassSummary} (hfirst : (report.process lines).outcome = .ok first)
    (hsecond : (report.process (lines ++ more)).outcome = .ok second) :
    CellGroup.Kept report.sections (report.process lines).report.groups.toList
      (report.process (lines ++ more)).report.groups.toList := by
  have hsound := loaded_sound h
  obtain ⟨-, hgroups, -⟩ := process_complete hsound hfirst
  obtain ⟨-, hlonger, -⟩ := process_complete hsound hsecond
  rw [hgroups, hlonger]
  obtain ⟨rest, hrest⟩ := report.storedLines_prefix lines more
  rw [← hrest]
  exact StoredLine.groups_kept rest fun x hx => mem_storedLines hx

def openRowText : String :=
  "title T\nsection header fieldset const \"h\" body fieldset include_filters \"A\" keep_in_row " ++
    "string 0 2 fieldset include_filters \"B\" string 0 2 footer fieldset const \"f\"\n"

theorem process_kept_open_row : ∃ report : Report, report.IsLoaded openRowText ∧
    (report.process ["A1"]).outcome = .ok ⟨1, 0, 0, 0, 1, 3⟩ ∧
    (report.process (["A1"] ++ ["B1", "A2"])).outcome = .ok ⟨3, 0, 0, 0, 1, 4⟩ ∧
    CellGroup.Kept report.sections (report.process ["A1"]).report.groups.toList
      (report.process (["A1"] ++ ["B1", "A2"])).report.groups.toList := by
  obtain ⟨report, hload, hcheck⟩ := exists_of_loads openRowText (append_eq_ofList rfl rfl)
    (fun report =>
      (report.process ["A1"]).outcome.toOption == some ⟨1, 0, 0, 0, 1, 3⟩ &&
        (report.process (["A1"] ++ ["B1", "A2"])).outcome.toOption == some ⟨3, 0, 0, 0, 1, 4⟩)
    (by decide +kernel)
  obtain ⟨hfirst, hsecond⟩ := Bool.and_eq_true_iff.mp hcheck
  have hone := eq_ok_of_toOption (beq_iff_eq.mp hfirst)
  have hmore := eq_ok_of_toOption (beq_iff_eq.mp hsecond)
  exact ⟨report, ofText_isLoaded hload, hone, hmore,
    process_kept (ofText_isLoaded hload) hone hmore⟩

end Report

end ListingGrid
