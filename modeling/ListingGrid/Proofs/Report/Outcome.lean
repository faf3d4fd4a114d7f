import ListingGrid.Proofs.Report.Reads

/-!
# Outcomes of passes

A pass ends in one of three ways: all lines were read, the listing could not be
read any further, or a line stopped the pass. In each of them the lines that were
stored tell the grid and the marks of the report after the pass.
-/

set_option autoImplicit false

namespace ListingGrid

namespace PassState

variable {report : Report} {st : PassState} {lines : List String}

theorem Reads.note (h : st.Reads report lines) (n : PassNote) :
    (st.note n).Reads report lines :=
  ⟨h.sections, h.shows, h.line, h.excluded, h.unmatched, h.skipped, h.converts⟩

/-- The items of a listing are all read, or one of their lines stops the pass. -/
theorem readItems_reads (hsound : report.Sound) (h : st.Reads report lines) (items : List Item) :
    (∃ st', readItems report st items = (st', none) ∧
        st'.Reads report (lines ++ items.filterMap Item.text?)) ∨
      ∃ before line after x st' e, items.filterMap Item.text? = before ++ line :: after ∧
        report.storedLines (lines ++ before ++ [line]) =
          report.storedLines (lines ++ before) ++ [x] ∧
        readItems report st items = (st', some e) ∧
        st'.Stops report (lines ++ before) x e := by
  induction items generalizing st lines with
  | nil => exact .inl ⟨st, rfl, by simpa using h⟩
  | cons item more ih =>
    cases item with
    | malformed => exact ih (h.note .malformed)
    | line text =>
      rcases readLine_reads hsound h text with ⟨st', hread, hst⟩ | ⟨x, st', e, hx, hread, hst⟩
      · simp only [readItems, hread]
        rcases ih hst with ⟨st'', hm, hst'⟩ | ⟨before, line, after, x, st'', e, hsplit, hx, hm, hst'⟩
        · refine .inl ⟨st'', hm, ?_⟩
          simpa [Item.text?] using hst'
        · refine .inr ⟨text :: before, line, after, x, st'', e, ?_, ?_, hm, ?_⟩
          · simp [Item.text?, hsplit]
          · simpa using hx
          · simpa using hst'
      · refine .inr ⟨[], text, more.filterMap Item.text?, x, st', e, rfl, ?_, ?_, ?_⟩
        · simpa using hx
        · simp only [readItems, hread]
        · simpa using hst

end PassState

namespace GroupDraft

/-- Whether a draft is drawn from lines: it is that of lines of one section, with its foot or
without it, or only the head that a line began. -/
inductive DrawnFrom (lines : List StoredLine) : GroupDraft → Prop where
  | head {line : StoredLine} (hline : line ∈ lines) :
      DrawnFrom lines (opened line.sectionIndex line.source)
  | part {first : StoredLine} {more : List StoredLine} (hsub : first :: more ⊆ lines)
      (hsame : ∀ x ∈ more, x.sectionIndex = first.sectionIndex) :
      DrawnFrom lines (ofRun (first :: more))
  | whole {first : StoredLine} {more : List StoredLine} (hsub : first :: more ⊆ lines)
      (hsame : ∀ x ∈ more, x.sectionIndex = first.sectionIndex) :
      DrawnFrom lines (ofWholeRun (first :: more))

theorem drawnFrom_runs {lines all : List StoredLine} (h : lines ⊆ all) {run : List StoredLine}
    (hrun : run ∈ StoredLine.runs lines) :
    (ofRun run).DrawnFrom all ∧ (ofWholeRun run).DrawnFrom all := by
  obtain ⟨first, more, rfl⟩ := StoredLine.runs_cons hrun
  have hsub : first :: more ⊆ all := fun x hx => h (StoredLine.mem_of_runs hrun hx)
  have hsame : ∀ x ∈ more, x.sectionIndex = first.sectionIndex := fun x hx =>
    (StoredLine.runs_section hrun first rfl x (List.mem_cons_of_mem _ hx)).symm
  exact ⟨.part hsub hsame, .whole hsub hsame⟩

end GroupDraft

namespace Report

variable (report : Report)

def laidLines (lines : List String) : List StoredLine :=
  (report.storedLines lines).takeWhile StoredLine.converts

inductive Ends (reading : Reading) (path : Option Path) (groups : Array CellGroup) (rows : Nat) :
    Except ReportError PassSummary → Prop where
  | complete (hread : reading.failure = none)
      (hconverts : ∀ x ∈ report.storedLines reading.lines, x.converts = true)
      (hgroups : groups.toList =
        GroupDraft.placeFrom 0 0 (StoredLine.groups (report.storedLines reading.lines)))
      (hrows : rows = GroupDraft.extent (StoredLine.groups (report.storedLines reading.lines))) :
      Ends reading path groups rows (.ok
        ⟨reading.lines.length, (report.fates report.sections reading.lines).count .excluded,
          (report.fates report.sections reading.lines).count .unmatched,
          (report.fates report.sections reading.lines).countP LineFate.isSkipped,
          groups.size, rows⟩)
  | unread {cause : FileError} (hread : reading.failure = some cause)
      (hconverts : ∀ x ∈ report.storedLines reading.lines, x.converts = true)
      (hgroups : groups.toList =
        GroupDraft.placeFrom 0 0 (StoredLine.openGroups (report.storedLines reading.lines))) :
      Ends reading path groups rows
        (.error (.file (path.getD default) cause))
  | stopped {before after : List String} {line : String} {x : StoredLine} {fault : ValueFault}
      (hlines : reading.lines = before ++ line :: after)
      (hstored : report.storedLines (before ++ [line]) = report.storedLines before ++ [x])
      (hconverts : ∀ y ∈ report.storedLines before, y.converts = true)
      (hstuck : x.converts = false)
      (hgroups : groups.toList =
        GroupDraft.placeFrom 0 0 (StoredLine.groupsAt (report.storedLines before) x))
      (hfault : StoredLine.Faults (report.storedLines before) x fault)
      (hline : fault.line = before.length + 1) :
      Ends reading path groups rows
        (.error (.mismatch path fault.line fault.field fault.cause))

variable {report}

theorem laidLines_of_converts {lines : List String}
    (h : ∀ x ∈ report.storedLines lines, x.converts = true) :
    report.laidLines lines = report.storedLines lines := by
  rw [laidLines, ← List.append_nil (report.storedLines lines),
    List.takeWhile_append_of_pos h, List.takeWhile_nil]

theorem laidLines_of_stop {before : List String} (after : List String) {line : String}
    {x : StoredLine}
    (hstored : report.storedLines (before ++ [line]) = report.storedLines before ++ [x])
    (hconverts : ∀ y ∈ report.storedLines before, y.converts = true)
    (hstuck : x.converts = false) :
    report.laidLines (before ++ line :: after) = report.storedLines before := by
  obtain ⟨rest, hrest⟩ := report.storedLines_prefix (before ++ [line]) after
  rw [List.append_cons, laidLines, ← hrest, hstored, List.append_assoc,
    List.takeWhile_append_of_pos hconverts, List.singleton_append, List.takeWhile_cons, hstuck]
  simp

/-- After a pass the report has the marks of the lines that were stored; only its
marks and its grid change. -/
theorem run_ends (h : report.Sound) (reading : Reading) (path : Option Path) :
    report.Ends reading path (report.run reading path).report.groups
        (report.run reading path).report.rows (report.run reading path).outcome ∧
      (report.run reading path).report = { report with
        sections := Section.marked ((report.laidLines reading.lines).map (·.sectionIndex))
          report.sections
        groups := (report.run reading path).report.groups
        rows := (report.run reading path).report.rows } := by
  -- Either all lines that the pass stores can be converted, or there is a first that cannot.
  rcases PassState.readItems_reads h (PassState.start_reads report) reading.items with
    ⟨st, hread, hst⟩ | ⟨before, line, after, x, st, e, hsplit, hnext, hread, hst⟩
  · rw [List.nil_append, ← Reading.lines] at hst
    have hlaid := laidLines_of_converts hst.converts
    have hsections := hst.sections.trans (report.after_storedLines h _)
    cases hfailure : reading.failure with
    | some cause =>
      simp only [run, hread, hfailure, conclude, hlaid, ← hsections]
      exact ⟨.unread hfailure hst.converts hst.shows.groups, trivial⟩
    | none =>
      have hfits : ∀ y ∈ report.storedLines reading.lines, y.FitsIn st.sections := by
        intro y hy
        rw [hst.sections]
        exact fitsIn_marked h _ (mem_storedLines hy).1 (mem_storedLines hy).2
      obtain ⟨l, hclose, hgroups, hrow, hline⟩ := hst.shows.finish st.lastLine hfits
      obtain ⟨journal, hclosed⟩ := PassState.closeGroup_ok hclose
      simp only [run, hread, hfailure, hclosed, conclude, hlaid, ← hsections]
      refine ⟨?_, trivial⟩
      have hsummary : PassState.summary { st with layout := l, journal } =
          ⟨reading.lines.length, (report.fates report.sections reading.lines).count .excluded,
            (report.fates report.sections reading.lines).count .unmatched,
            (report.fates report.sections reading.lines).countP LineFate.isSkipped,
            l.groups.size, l.row⟩ := by
        rw [PassState.summary, hst.excluded, hst.unmatched, hst.skipped, hline, hst.line,
          Layout.groups_size]
      rw [hsummary]
      exact .complete hfailure hst.converts hgroups hrow
  · have hlaid := laidLines_of_stop after hnext hst.converts hst.stuck
    have hsections := hst.sections.trans (report.after_storedLines h _)
    have hlines : reading.lines = before ++ line :: after := hsplit
    obtain ⟨fault, rfl, hnumber, hfault⟩ := hst.error
    simp only [run, hread, conclude, hlines, List.nil_append] at hlaid hsections ⊢
    rw [hlaid, hsections]
    exact ⟨.stopped hlines hnext hst.converts hst.stuck hst.groups hfault hnumber, rfl⟩

/-- A pass over lines that succeeds has converted all that is stored, and its groups are whole. -/
theorem process_complete (h : report.Sound) {lines : List String} {summary : PassSummary}
    (hok : (report.process lines).outcome = .ok summary) :
    (∀ x ∈ report.storedLines lines, x.converts = true) ∧
      (report.process lines).report.groups.toList =
        GroupDraft.placeFrom 0 0 (StoredLine.groups (report.storedLines lines)) ∧
      summary = ⟨lines.length, (report.fates report.sections lines).count .excluded,
        (report.fates report.sections lines).count .unmatched,
        (report.fates report.sections lines).countP LineFate.isSkipped,
        (report.process lines).report.groups.size, (report.process lines).report.rows⟩ := by
  have hends := (run_ends h ⟨lines.map .line, none⟩ none).1
  rw [process] at hok ⊢
  rw [hok] at hends
  generalize (report.run ⟨lines.map .line, none⟩ none).report.groups = groups at hends ⊢
  generalize (report.run ⟨lines.map .line, none⟩ none).report.rows = rows at hends ⊢
  cases hends with
  | complete hread hconverts hgroups hrows =>
    rw [Reading.lines_map] at hconverts hgroups ⊢
    exact ⟨hconverts, hgroups, rfl⟩

/-- However a pass ends, the groups of the report are drawn from the lines that were stored. -/
theorem run_drawn (h : report.Sound) (reading : Reading) (path : Option Path) :
    ∃ drafts, (report.run reading path).report.groups.toList = GroupDraft.placeFrom 0 0 drafts ∧
      ∀ draft ∈ drafts, draft.DrawnFrom (report.storedLines reading.lines) := by
  have hends := (run_ends h reading path).1
  generalize (report.run reading path).outcome = outcome at hends
  cases hends with
  | complete hread hconverts hgroups hrows =>
    refine ⟨_, hgroups, fun draft hd => ?_⟩
    obtain ⟨run, hrun, rfl⟩ := List.mem_map.mp hd
    exact (GroupDraft.drawnFrom_runs (List.Subset.refl _) hrun).2
  | unread hread hconverts hgroups =>
    exact ⟨_, hgroups, StoredLine.openGroups_forall fun run =>
      GroupDraft.drawnFrom_runs (List.Subset.refl _)⟩
  | @stopped before after line x fault hlines hnext hconverts hstuck hgroups hfault hline =>
    have hread : report.storedLines before ++ [x] ⊆ report.storedLines reading.lines := by
      rw [hlines, ← hnext, List.append_cons before line after]
      exact (report.storedLines_prefix (before ++ [line]) after).subset
    refine ⟨_, hgroups, StoredLine.groupsAt_forall (fun run hrun => ?_) (.head (hread (by simp)))⟩
    exact GroupDraft.drawnFrom_runs (fun y hy => hread (List.mem_append_left _ hy)) hrun

theorem run_sound (h : report.Sound) (reading : Reading) (path : Option Path) :
    (report.run reading path).report.Sound := by
  have hafter := (run_ends h reading path).2
  exact sound_marked h (congrArg routes hafter :) (congrArg sections hafter :)

end Report

end ListingGrid
