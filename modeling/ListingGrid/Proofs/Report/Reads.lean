import ListingGrid.Proofs.Report.Fates
import ListingGrid.Proofs.Report.Stops
import ListingGrid.Report.Pass

/-!
# Reading lines

A pass that has read lines shows those of them that are stored, has counted the
others and has marked the sections that lines were stored in. The next line keeps
this so, or it stops the pass.
-/

set_option autoImplicit false

namespace ListingGrid

namespace PassState

structure Reads (st : PassState) (report : Report) (lines : List String) : Prop where
  sections : st.sections = report.after report.sections lines
  shows : st.layout.Shows (report.storedLines lines)
  line : st.layout.line = lines.length
  excluded : st.excluded = (report.fates report.sections lines).count .excluded
  unmatched : st.unmatched = (report.fates report.sections lines).count .unmatched
  skipped : st.skipped = (report.fates report.sections lines).countP LineFate.isSkipped
  converts : ∀ x ∈ report.storedLines lines, x.converts = true

/-- Where a pass ends that a line stops, after lines that could all be laid out. -/
structure Stops (st : PassState) (report : Report) (lines : List String) (x : StoredLine)
    (e : ReportError) : Prop where
  converts : ∀ y ∈ report.storedLines lines, y.converts = true
  stuck : x.converts = false
  sections : st.sections = report.after report.sections lines
  groups : st.layout.groups.toList =
    GroupDraft.placeFrom 0 0 (StoredLine.groupsAt (report.storedLines lines) x)
  error : ∃ fault : ValueFault, e = .mismatch none fault.line fault.field fault.cause ∧
    fault.line = lines.length + 1 ∧ StoredLine.Faults (report.storedLines lines) x fault
  line : st.layout.line = lines.length + 1

variable {report : Report} {st : PassState} {lines : List String}

theorem start_reads (report : Report) : (start report.sections).Reads report [] where
  sections := (Section.marked_nil _).symm
  shows := .nothing Layout.start_idle
  line := rfl
  excluded := rfl
  unmatched := rfl
  skipped := rfl
  converts := by simp [Report.storedLines, Report.storedFrom]

theorem lay_ok (st : PassState) (l : Layout) : st.lay ⟨l, none⟩ = ({ st with layout := l }, none) :=
  rfl

theorem lay_fault (st : PassState) (l : Layout) (fault : ValueFault) :
    st.lay ⟨l, some fault⟩ =
      ({ st with layout := l }, some (.mismatch none fault.line fault.field fault.cause)) :=
  rfl

theorem closeGroup_ok {line : String} {followed : Bool} {l : Layout}
    (h : st.layout.closeGroup st.sections line followed = ⟨l, none⟩) :
    ∃ journal, st.closeGroup line followed = ({ st with layout := l, journal }, none) := by
  unfold closeGroup
  simp only [h]
  split
  · next group hactive hfault => exact ⟨_, lay_ok ..⟩
  · exact ⟨_, lay_ok ..⟩

theorem openGroup_ok (st : PassState) {index : Nat} {s : Section} {line : String} {l : Layout}
    (h : st.layout.openGroup index s line = ⟨l, none⟩) :
    ∃ journal, st.openGroup index s line = ({ st with layout := l, journal }, none) := by
  unfold openGroup
  simp only [h]
  exact ⟨_, lay_ok ..⟩

/-- A line of another section closes the active group and opens one. -/
theorem enterSection_ok {index : Nat} {s : Section} {line : String} {l m : Layout}
    (ha : st.layout.activeSection ≠ some index)
    (hclose : st.layout.closeGroup st.sections line true = ⟨l, none⟩)
    (hopen : l.openGroup index s line = ⟨m, none⟩) :
    ∃ journal, st.enterSection index s line = ({ st with layout := m, journal }, none) := by
  obtain ⟨journal, hc⟩ := closeGroup_ok hclose
  obtain ⟨journal', ho⟩ :=
    openGroup_ok { st with layout := l, journal } hopen
  refine ⟨journal', ?_⟩
  unfold enterSection
  rw [if_neg ha, hc]
  exact ho

/-- Storing a line comes to storing it in the layout of its section. -/
theorem storeLine_entered {index position : Nat} {line : String} {s : Section}
    {fieldset : Fieldset} {st' : PassState} (hs : st.sections[index]? = some s)
    (hf : s.body[position]? = some fieldset)
    (henter : st.enterSection index s line = (st', none)) {l : Layout} :
    (st'.layout.store .body position fieldset line = ⟨l, none⟩ →
      st.storeLine index position line =
        ({ st' with
            layout := l
            sections := st'.sections.modify index Section.markProcessed
            lastLine := line }, none)) ∧
    ∀ fault, st'.layout.store .body position fieldset line = ⟨l, some fault⟩ →
      st.storeLine index position line =
        ({ st' with layout := l },
          some (.mismatch none fault.line fault.field fault.cause)) := by
  constructor
  · intro hstore
    unfold storeLine
    simp only [hs, hf, henter, hstore, lay_ok]
  · intro fault hstore
    unfold storeLine
    simp only [hs, hf, henter, hstore, lay_fault]

variable {stored : List StoredLine} {x : StoredLine}

/-- Where a stored line finds the layout: in a group of its section, the active one
or one that it begins. -/
theorem enterSection_shows (hshows : st.layout.Shows stored)
    (hstored : ∀ y ∈ stored, y.FitsIn st.sections) {s : Section}
    (hs : st.sections[x.sectionIndex]? = some s) (hx : x.FitsIn st.sections) :
    ∃ m journal, st.enterSection x.sectionIndex s x.text =
        ({ st with layout := m, journal }, none) ∧ m.line = st.layout.line ∧
      (x.converts = true → ∃ l, m.store .body x.position x.fieldset x.text = ⟨l, none⟩ ∧
        l.Shows (stored ++ [x]) ∧ l.line = m.line) ∧
      (x.converts = false → ∃ l fault, m.store .body x.position x.fieldset x.text =
          ⟨l, some fault⟩ ∧
        l.groups.toList = GroupDraft.placeFrom 0 0 (StoredLine.groupsAt stored x) ∧
        l.line = m.line ∧ fault.line = m.line ∧ StoredLine.Faults stored x fault) := by
  by_cases ha : st.layout.activeSection = some x.sectionIndex
  · refine ⟨st.layout, st.journal, ?_, rfl, ?_, ?_⟩
    · unfold enterSection
      rw [if_pos ha]
    · intro hc
      exact hshows.store_same ha hc hx.filling
    · intro hc
      exact hshows.stop_same ha hc
  · obtain ⟨t, ht, halike⟩ := hx.at_index
    obtain rfl := Option.some.inj (hs.symm.trans ht)
    obtain ⟨k, hclose, hidle, hk⟩ := hshows.close x.text hstored
    have ha' := hshows.activeSection ▸ ha
    obtain ⟨m, hopen, hdraft, hm, hline⟩ :=
      Layout.openGroup_drafted hidle x.sectionIndex x.text halike.header hx.sound.header
    obtain ⟨journal, henter⟩ := enterSection_ok ha hclose hopen
    refine ⟨m, journal, henter, hline.trans hk, ?_, ?_⟩
    · intro hc
      exact Layout.Shows.store_first hdraft hm ha' hc hx.filling
    · intro hc
      exact Layout.Shows.stop_first hdraft hm ha' hc

theorem Reads.drop (h : st.Reads report lines) {line : String} {fate : LineFate}
    (hfate : report.fate (report.after report.sections lines) line = fate)
    (hf : fate.isStored = false) {st' : PassState} (hs : st'.sections = st.sections)
    (hl : st'.layout = { st.layout with line := st.layout.line + 1 })
    (he : st'.excluded = st.excluded + [fate].count .excluded)
    (hu : st'.unmatched = st.unmatched + [fate].count .unmatched)
    (hk : st'.skipped = st.skipped + [fate].countP LineFate.isSkipped) :
    st'.Reads report (lines ++ [line]) := by
  have hfates := report.fates_concat report.sections lines line
  have hstored : report.storedLines (lines ++ [line]) = report.storedLines lines := by
    rw [Report.storedLines_concat, hfate]
    cases fate with
    | stored index position => simp [LineFate.isStored, LineFate.section?] at hf
    | _ => simp [Report.storedLine?]
  rw [hfate] at hfates
  refine ⟨?_, ?_, ?_, ?_, ?_, ?_, ?_⟩
  · rw [Report.after_concat, hfate, hs, h.sections]
    cases fate with
    | stored index position => simp [LineFate.isStored, LineFate.section?] at hf
    | _ => rfl
  · rw [hstored, hl]
    exact h.shows.advance _
  · simp [hl, h.line]
  · rw [he, hfates, List.count_append, h.excluded]
  · rw [hu, hfates, List.count_append, h.unmatched]
  · rw [hk, hfates, List.countP_append, h.skipped]
  · rw [hstored]
    exact h.converts

/-- A line that is stored is laid out, or it stops the pass. -/
theorem Reads.store (hsound : report.Sound) (h : st.Reads report lines) {line : String}
    {index position : Nat}
    (hfate : report.fate (report.after report.sections lines) line = .stored index position)
    (journal : Array PassNote) {st' : PassState}
    (hst : { st with
      layout := { st.layout with line := st.layout.line + 1 }
      sections := report.after report.sections lines
      journal } = st') :
    (∃ st'', st'.storeLine index position line = (st'', none) ∧
        st''.Reads report (lines ++ [line])) ∨
      ∃ x st'' e, report.storedLines (lines ++ [line]) = report.storedLines lines ++ [x] ∧
        st'.storeLine index position line = (st'', some e) ∧ st''.Stops report lines x e := by
  obtain ⟨x, hx, rfl, rfl, rfl, hs, hf⟩ := Report.storedLine_of_fate hsound hfate
  have hfates := report.fates_concat report.sections lines x.text
  have hstored : report.storedLines (lines ++ [x.text]) = report.storedLines lines ++ [x] := by
    rw [Report.storedLines_concat, hfate, hx]
    rfl
  have hfits : ∀ y : StoredLine, report.sections[y.sectionIndex]? = some y.source →
      y.source.body[y.position]? = some y.fieldset → y.FitsIn st'.sections := by
    intro y hys hyf
    rw [← hst]
    exact Report.fitsIn_marked hsound _ hys hyf
  have hxfits := hfits x hs hf
  have hshows : st'.layout.Shows (report.storedLines lines) := by
    rw [← hst]
    exact h.shows.advance _
  have hline : st'.layout.line = lines.length + 1 := by
    rw [← hst, ← h.line]
  obtain ⟨s, hat, halike⟩ := hxfits.at_index
  obtain ⟨m, journal, henter, hm, hok, hfault⟩ := enterSection_shows hshows
    (fun y hy => hfits y (Report.mem_storedLines hy).1 (Report.mem_storedLines hy).2) hat hxfits
  have hbody : s.body[x.position]? = some x.fieldset := by rw [halike.body, hf]
  cases hc : x.converts with
  | true =>
    obtain ⟨l, hl, hshows', hl'⟩ := hok hc
    refine .inl ⟨_, (storeLine_entered hat hbody henter).1 hl, ?_, ?_, ?_, ?_, ?_, ?_, ?_⟩
    · rw [Report.after_concat, hfate, ← hst]
      rfl
    · rw [hstored]
      exact hshows'
    · simp [hl', hm, hline]
    · simp [hfates, hfate, ← hst, h.excluded]
    · simp [hfates, hfate, ← hst, h.unmatched]
    · simp [hfates, hfate, ← hst, h.skipped, LineFate.isSkipped]
    · rw [hstored]
      exact List.forall_mem_append.mpr ⟨h.converts, by simpa using hc⟩
  | false =>
    obtain ⟨l, fault, hl, hgroups, hl', hn, hfaults⟩ := hfault hc
    exact .inr ⟨x, _, _, hstored, (storeLine_entered hat hbody henter).2 fault hl, h.converts, hc,
      congrArg PassState.sections hst.symm, hgroups, ⟨fault, rfl, hn.trans (hm.trans hline), hfaults⟩,
      hl'.trans (hm.trans hline)⟩

/-- A line keeps a pass reading, or it is stored and stops the pass. -/
theorem readLine_reads (hsound : report.Sound) (h : st.Reads report lines) (line : String) :
    (∃ st', readLine report st line = (st', none) ∧ st'.Reads report (lines ++ [line])) ∨
      ∃ x st' e, report.storedLines (lines ++ [line]) = report.storedLines lines ++ [x] ∧
        readLine report st line = (st', some e) ∧ st'.Stops report lines x e := by
  unfold readLine
  simp only [h.sections]
  cases hfate : report.fate (report.after report.sections lines) line with
  | excluded => exact .inl ⟨_, rfl, h.drop hfate rfl h.sections.symm rfl rfl rfl rfl⟩
  | unmatched => exact .inl ⟨_, rfl, h.drop hfate rfl h.sections.symm rfl rfl rfl rfl⟩
  | skipped index => exact .inl ⟨_, rfl, h.drop hfate rfl h.sections.symm rfl rfl rfl rfl⟩
  | stored index position => exact h.store hsound hfate _ rfl

end PassState

end ListingGrid
