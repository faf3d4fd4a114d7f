import ListingGrid.Proofs.Listing.Lines
import ListingGrid.Proofs.Report.Geometry
import ListingGrid.Report.Pass

/-!
# Passes over files

A pass over a file is the pass over the lines that the file yields, and tells the path of
the file with a value that has no number. Where a file cannot be read to its end, the pass
is the one over the lines in front of that, but its last group has no foot.
-/

set_option autoImplicit false

namespace ListingGrid

def CellGroup.withoutFoot (group : CellGroup) : CellGroup :=
  { group with rows := (group.rows.toList.filter fun row => row.role ≠ .footer).toArray }

def CellGroup.unfinished (groups : List CellGroup) : List CellGroup :=
  groups.dropLast ++ groups.getLast?.toList.map withoutFoot

/-- How the outcome of a pass over lines is told where they are those of a file. -/
inductive Report.Located (path : Path) :
    Except ReportError PassSummary → Except ReportError PassSummary → Prop where
  | passed (summary : PassSummary) : Located path (.ok summary) (.ok summary)
  | stopped (line : Nat) (name : String) (cause : FormatMismatch) :
      Located path (.error (.mismatch none line name cause))
        (.error (.mismatch (some path) line name cause))

/-- What a pass over a file comes to, given what opening the file has led to and the lines
that its reader gives. -/
structure Report.FileLaw (report : Report) (path : Path)
    (opened : Except FileError (List Answer)) (pass : PassResult) : Prop where
  unopened : ∀ cause, opened = .error cause →
    pass.report = report ∧ pass.outcome = .error (.file path cause)
  whole : ∀ answers lines, opened = .ok answers →
    (LineReader.start report.encoding answers).Gives (lines.map .ok) →
    pass.report = (report.process lines).report ∧
      Located path (report.process lines).outcome pass.outcome
  stopped : ∀ answers lines cause e, opened = .ok answers →
    (LineReader.start report.encoding answers).Gives (lines.map .ok ++ [.error cause]) →
    (report.process lines).outcome = .error e →
    pass.report = (report.process lines).report ∧
      Located path (report.process lines).outcome pass.outcome
  unread : ∀ answers lines cause summary, opened = .ok answers →
    (LineReader.start report.encoding answers).Gives (lines.map .ok ++ [.error cause]) →
    (report.process lines).outcome = .ok summary →
    pass.outcome = .error (.file path cause) ∧
      pass.report.groups.toList =
        CellGroup.unfinished (report.process lines).report.groups.toList ∧
      pass.report.sections = (report.process lines).report.sections

namespace PassState

variable (st : PassState) (journal : Array PassNote)

theorem lay_journal (laid : Laid) :
    ({ st with journal } : PassState).lay laid =
      ({ (st.lay laid).1 with journal }, (st.lay laid).2) := rfl

theorem closeGroup_journal (line : String) (followed : Bool) :
    ∃ journal', ({ st with journal } : PassState).closeGroup line followed =
      ({ (st.closeGroup line followed).1 with journal := journal' },
        (st.closeGroup line followed).2) := by
  unfold closeGroup
  simp only
  rcases st.layout.closeGroup st.sections line followed with ⟨l, fault⟩
  cases st.layout.active <;> cases fault <;> exact ⟨_, rfl⟩

theorem openGroup_journal (index : Nat) (s : Section) (line : String) :
    ∃ journal', ({ st with journal } : PassState).openGroup index s line =
      ({ (st.openGroup index s line).1 with journal := journal' },
        (st.openGroup index s line).2) := ⟨_, rfl⟩

theorem enterSection_journal (index : Nat) (s : Section) (line : String) :
    ∃ journal', ({ st with journal } : PassState).enterSection index s line =
      ({ (st.enterSection index s line).1 with journal := journal' },
        (st.enterSection index s line).2) := by
  unfold enterSection
  by_cases ha : st.layout.activeSection = some index
  · simp only [ha, if_true]
    exact ⟨_, rfl⟩
  · simp only [ha, if_false]
    obtain ⟨closed, hclosed⟩ := st.closeGroup_journal journal line true
    rw [hclosed]
    rcases st.closeGroup line true with ⟨st', fault⟩
    cases fault with
    | none => exact st'.openGroup_journal closed index s line
    | some e => exact ⟨_, rfl⟩

theorem storeLine_journal (index position : Nat) (line : String) :
    ∃ journal', ({ st with journal } : PassState).storeLine index position line =
      ({ (st.storeLine index position line).1 with journal := journal' },
        (st.storeLine index position line).2) := by
  unfold storeLine
  cases st.sections[index]? with
  | none => exact ⟨_, rfl⟩
  | some s =>
    simp only
    cases s.body[position]? with
    | none => exact ⟨_, rfl⟩
    | some fieldset =>
      obtain ⟨entered, hentered⟩ := st.enterSection_journal journal index s line
      simp only [hentered]
      rcases st.enterSection index s line with ⟨st', fault⟩
      cases fault with
      | some e => exact ⟨_, rfl⟩
      | none =>
        simp only [lay_journal]
        rcases st'.lay (st'.layout.store .body position fieldset line) with ⟨laid, fault⟩
        cases fault <;> exact ⟨_, rfl⟩

theorem readLine_journal (report : Report) (line : String) :
    ∃ journal', readLine report { st with journal } line =
      ({ (readLine report st line).1 with journal := journal' },
        (readLine report st line).2) := by
  unfold readLine
  simp only
  cases report.fate st.sections line with
  | excluded => exact ⟨_, rfl⟩
  | unmatched => exact ⟨_, rfl⟩
  | skipped index => exact ⟨_, rfl⟩
  | stored index position =>
    obtain ⟨stored, hstored⟩ := storeLine_journal
      (({ st with layout := { st.layout with line := st.layout.line + 1 } } : PassState).note
        (.routed (st.layout.line + 1) index position))
      (journal.push (.routed (st.layout.line + 1) index position)) index position line
    exact ⟨stored, hstored⟩

/-- Of the items of a listing, those that are no lines are only told. -/
theorem readItems_journal (report : Report) (items : List Item) :
    ∃ journal', readItems report { st with journal } ((items.filterMap Item.text?).map .line) =
      ({ (readItems report st items).1 with journal := journal' },
        (readItems report st items).2) := by
  induction items generalizing st journal with
  | nil => exact ⟨_, rfl⟩
  | cons item more ih =>
    cases item with
    | malformed => exact ih (st.note .malformed) journal
    | line text =>
      obtain ⟨read, hread⟩ := readLine_journal st journal report text
      simp only [List.filterMap_cons, Item.text?, List.map_cons, readItems, hread]
      rcases readLine report st text with ⟨st', fault⟩
      cases fault with
      | none => exact ih st' read
      | some e => exact ⟨_, rfl⟩

end PassState

namespace Report

variable {report : Report}

theorem run_lines (report : Report) (reading : Reading) (path : Option Path) :
    (report.run reading path).report =
        (report.run ⟨reading.lines.map .line, reading.failure⟩ path).report ∧
      (report.run reading path).outcome =
        (report.run ⟨reading.lines.map .line, reading.failure⟩ path).outcome := by
  obtain ⟨read, hread⟩ := PassState.readItems_journal (PassState.start report.sections) #[]
    report reading.items
  have hstart : ({ PassState.start report.sections with journal := #[] } : PassState) =
      PassState.start report.sections := rfl
  rw [hstart] at hread
  unfold run
  simp only [Reading.lines, hread]
  rcases PassState.readItems report (PassState.start report.sections) reading.items with ⟨st, fault⟩
  cases fault with
  | some e => exact ⟨rfl, rfl⟩
  | none =>
    cases reading.failure with
    | some cause => exact ⟨rfl, rfl⟩
    | none =>
      obtain ⟨closed, hclosed⟩ := st.closeGroup_journal read st.lastLine false
      simp only [hclosed]
      rcases st.closeGroup st.lastLine false with ⟨st', fault⟩
      cases fault <;> exact ⟨rfl, rfl⟩

/-- The path of a listing is only told with what stopped its pass. -/
theorem conclude_located (report : Report) (st : PassState) (path : Path)
    {fault : Option ReportError}
    (h : ∀ e ∈ fault, ∃ line name cause, e = .mismatch none line name cause) :
    (report.conclude st (some path) fault).report = (report.conclude st none fault).report ∧
      Located path (report.conclude st none fault).outcome
        (report.conclude st (some path) fault).outcome := by
  cases fault with
  | none => exact ⟨rfl, .passed _⟩
  | some e =>
    obtain ⟨line, name, cause, rfl⟩ := h e rfl
    exact ⟨rfl, .stopped line name cause⟩

/-- Lines are all read, and then the last group can be finished, or one of them has a value
that stops the pass. -/
theorem readItems_ends (h : report.Sound) (lines : List String) :
    (∃ st l journal, PassState.readItems report (PassState.start report.sections)
          (lines.map .line) = (st, none) ∧
        st.closeGroup st.lastLine false = ({ st with layout := l, journal }, none) ∧
        st.layout.groups.toList =
          GroupDraft.placeFrom 0 0 (StoredLine.openGroups (report.storedLines lines)) ∧
        l.groups.toList =
          GroupDraft.placeFrom 0 0 (StoredLine.groups (report.storedLines lines))) ∨
      ∃ st line name cause, PassState.readItems report (PassState.start report.sections)
        (lines.map .line) = (st, some (.mismatch none line name cause)) := by
  have hlines : (lines.map Item.line).filterMap Item.text? = lines := Reading.lines_map lines none
  rcases PassState.readItems_reads h (PassState.start_reads report) (lines.map .line) with
    ⟨st, hread, hst⟩ | ⟨before, line, after, x, st, e, -, -, hread, hst⟩
  · rw [List.nil_append, hlines] at hst
    have hfits : ∀ y ∈ report.storedLines lines, y.FitsIn st.sections := by
      intro y hy
      rw [hst.sections]
      exact fitsIn_marked h _ (mem_storedLines hy).1 (mem_storedLines hy).2
    obtain ⟨l, hclose, hgroups, -, -⟩ := hst.shows.finish st.lastLine hfits
    obtain ⟨journal, hclosed⟩ := PassState.closeGroup_ok hclose
    exact .inl ⟨st, l, journal, hread, hclosed, hst.shows.groups, hgroups⟩
  · obtain ⟨fault, rfl, -⟩ := hst.error
    exact .inr ⟨st, fault.line, fault.field, fault.cause, hread⟩

/-- Lines of a file that can all be read pass as they do without the file. -/
theorem run_located (h : report.Sound) (lines : List String) (path : Path) :
    (report.run ⟨lines.map .line, none⟩ (some path)).report = (report.process lines).report ∧
      Located path (report.process lines).outcome
        (report.run ⟨lines.map .line, none⟩ (some path)).outcome := by
  rcases readItems_ends h lines with ⟨st, l, journal, hread, hclosed, -, -⟩ |
    ⟨st, line, name, cause, hread⟩
  · simp only [process, run, hread, hclosed]
    exact conclude_located report _ path (by simp)
  · simp only [process, run, hread]
    exact conclude_located report st path (by simp)

/-- A value that stops a pass stops it before the file fails. -/
theorem run_stopped (h : report.Sound) {lines : List String} {e : ReportError}
    (herr : (report.process lines).outcome = .error e) (failure : FileError) (path : Path) :
    (report.run ⟨lines.map .line, some failure⟩ (some path)).report =
        (report.process lines).report ∧
      Located path (report.process lines).outcome
        (report.run ⟨lines.map .line, some failure⟩ (some path)).outcome := by
  rcases readItems_ends h lines with ⟨st, l, journal, hread, hclosed, -, -⟩ |
    ⟨st, line, name, cause, hread⟩
  · simp [process, run, hread, hclosed, conclude] at herr
  · simp only [process, run, hread]
    exact conclude_located report st path (by simp)

end Report

theorem RowDraft.placeFrom_role {P : Role → Prop} {drafts : List RowDraft}
    (h : ∀ draft ∈ drafts, P draft.role) (sectionIndex startRow row : Nat) :
    ∀ placed ∈ placeFrom sectionIndex startRow row drafts, P placed.role := by
  intro placed hplaced
  obtain ⟨j, draft, hdraft, rfl⟩ := mem_placeFrom hplaced
  exact h draft (List.mem_of_getElem? hdraft)

theorem GroupDraft.ofRun_not_footer (run : List StoredLine) :
    ∀ row ∈ (ofRun run).rows, row.role ≠ .footer := by
  cases run with
  | nil => simp [ofRun]
  | cons first more =>
    intro row hrow
    rcases List.mem_append.mp hrow with hrow | hrow
    · simp [RowDraft.special_role hrow]
    · simp [StoredLine.bodyRows_role hrow]

/-- A group that was finished is, without its foot, what it was before. -/
theorem GroupDraft.ofWholeRun_withoutFoot (run : List StoredLine) (index baseRow : Nat) :
    ((ofWholeRun run).place index baseRow).withoutFoot = (ofRun run).place index baseRow := by
  have hkept := RowDraft.placeFrom_role (P := (· ≠ .footer)) (ofRun_not_footer run) (ofRun run).sectionIndex
    ((ofRun run).startRow baseRow) baseRow
  have hspecial : ∀ row ∈ RowDraft.special .footer 0 (ofRun run).source.footer, row.role = .footer :=
    fun _ => RowDraft.special_role
  have hfoot := RowDraft.placeFrom_role (P := (· = .footer)) hspecial (ofRun run).sectionIndex
    ((ofRun run).startRow baseRow) (baseRow + (ofRun run).rows.length)
  have hrows : ((ofWholeRun run).place index baseRow).rows.toList.filter
      (fun row => row.role ≠ .footer) = ((ofRun run).place index baseRow).rows.toList := by
    have hplace := RowDraft.placeFrom_append (ofRun run).sectionIndex
      ((ofRun run).startRow baseRow) baseRow (ofRun run).rows
      (RowDraft.special .footer 0 (ofRun run).source.footer)
    rw [place_rows, ofWholeRun, ended, add]
    refine (congrArg (List.filter fun row => decide (row.role ≠ .footer)) hplace).trans ?_
    rw [List.filter_append, List.filter_eq_self.mpr (by simpa using hkept),
      List.filter_eq_nil_iff.mpr (by simpa using hfoot), List.append_nil, place_rows]
  rw [CellGroup.withoutFoot, hrows]
  rfl

/-- The groups of a layout that more lines may follow are those of the finished layout, the
last one without its foot. -/
theorem StoredLine.unfinished_groups (stored : List StoredLine) :
    CellGroup.unfinished (GroupDraft.placeFrom 0 0 (groups stored)) =
      GroupDraft.placeFrom 0 0 (openGroups stored) := by
  rcases List.eq_nil_or_concat' (runs stored) with hruns | ⟨before, run, hruns⟩
  · simp [groups, openGroups, hruns, GroupDraft.placeFrom, CellGroup.unfinished]
  · have hfoot := GroupDraft.ofWholeRun_withoutFoot run before.length
      (GroupDraft.heights (before.map GroupDraft.ofWholeRun))
    simp [groups, openGroups, hruns, GroupDraft.placeFrom_concat, CellGroup.unfinished, hfoot]

namespace Report

variable {report : Report}

/-- Where a file fails behind lines that pass, their last group is left as it is. -/
theorem run_unread (h : report.Sound) {lines : List String} {summary : PassSummary}
    (hok : (report.process lines).outcome = .ok summary) (failure : FileError) (path : Path) :
    (report.run ⟨lines.map .line, some failure⟩ (some path)).outcome =
        .error (.file path failure) ∧
      (report.run ⟨lines.map .line, some failure⟩ (some path)).report.groups.toList =
        CellGroup.unfinished (report.process lines).report.groups.toList ∧
      (report.run ⟨lines.map .line, some failure⟩ (some path)).report.sections =
        (report.process lines).report.sections := by
  rcases readItems_ends h lines with ⟨st, l, journal, hread, hclosed, hopen, hgroups⟩ |
    ⟨st, line, name, cause, hread⟩
  · simp only [process, run, hread, hclosed, conclude]
    exact ⟨rfl, by rw [hopen, hgroups, StoredLine.unfinished_groups], trivial⟩
  · simp [process, run, hread, conclude] at hok

/-- What a reader gives is what the reading of all at once holds. -/
theorem reading_of_gives {encoding : Encoding} {answers : List Answer}
    {items : List (Except FileError String)}
    (h : (LineReader.start encoding answers).Gives items) :
    (Reading.ofAnswers encoding answers).results = items := by
  have hread := Reading.readFrom_results answers (Decoder.start encoding)
    (by simp : '\n' ∉ ([] : List Char))
  have hgives := LineReader.gives_reading answers (Decoder.start encoding) []
  refine hread.trans (List.ext_getElem? fun k => ?_)
  exact (hgives k).symm.trans (h k)

theorem eq_of_results {reading : Reading} {lines : List String} {failure : Option FileError}
    (h : reading.results = lines.map .ok ++ failure.toList.map .error) :
    reading.lines = lines ∧ reading.failure = failure := by
  have hfront : ∀ (a : List String) (b : Option FileError),
      (a.map .ok ++ b.toList.map .error : List (Except FileError String)).filterMap
        Except.toOption = a := by
    intro a b
    cases b <;> simp [List.filterMap_append, Function.comp_def, Except.toOption]
  have hlines : reading.lines = lines := by
    rw [← hfront reading.lines reading.failure, ← hfront lines failure]
    exact congrArg (List.filterMap Except.toOption) h
  refine ⟨hlines, ?_⟩
  rw [Reading.results, hlines, List.append_cancel_left_eq] at h
  cases hf : reading.failure <;> cases failure <;> simp_all

/-- A pass over a file agrees with the pass over its lines, whatever opening the file has led
to and whatever its source answers. -/
theorem processFile_law {text : String} (h : report.IsLoaded text) (path : Path) :
    (∀ opened, report.FileLaw path opened (report.processOpened path opened)) ∧
      ∀ store : Store, report.FileLaw path (store.openListing path)
        (report.processFile store path) := by
  have hsound := loaded_sound h
  have hrun : ∀ answers (lines : List String) (failure : Option FileError),
      (LineReader.start report.encoding answers).Gives
        (lines.map .ok ++ failure.toList.map .error) →
      (report.processOpened path (.ok answers)).report =
          (report.run ⟨lines.map .line, failure⟩ (some path)).report ∧
        (report.processOpened path (.ok answers)).outcome =
          (report.run ⟨lines.map .line, failure⟩ (some path)).outcome := by
    intro answers lines failure hgives
    obtain ⟨rfl, rfl⟩ := eq_of_results (reading_of_gives hgives)
    exact report.run_lines _ (some path)
  have hlaw : ∀ opened, report.FileLaw path opened (report.processOpened path opened) := by
    intro opened
    refine ⟨?unopened, ?whole, ?stopped, ?unread⟩
    case unopened =>
      rintro cause rfl
      exact ⟨rfl, rfl⟩
    case whole =>
      rintro answers lines rfl hgives
      obtain ⟨hreport, houtcome⟩ := hrun answers lines none (by simpa using hgives)
      rw [hreport, houtcome]
      exact run_located hsound lines path
    case stopped =>
      rintro answers lines cause e rfl hgives herr
      obtain ⟨hreport, houtcome⟩ := hrun answers lines (some cause) hgives
      rw [hreport, houtcome]
      exact run_stopped hsound herr cause path
    case unread =>
      rintro answers lines cause summary rfl hgives hok
      obtain ⟨hreport, houtcome⟩ := hrun answers lines (some cause) hgives
      rw [hreport, houtcome]
      exact run_unread hsound hok cause path
  exact ⟨hlaw, fun store => hlaw (store.openListing path)⟩

/-- A file that fails behind a whole line of each section: the foot of the second group is
missing. -/
theorem processFile_law_unread : ∃ (report : Report) (answers : List Answer),
    report.IsLoaded sampleText ∧
    (LineReader.start report.encoding answers).Gives
      (["A1", "B1"].map .ok ++ [.error .brokenPipe]) ∧
    (report.process ["A1", "B1"]).outcome = .ok ⟨2, 0, 0, 0, 2, 5⟩ ∧
    (report.processOpened (.ofText "in.lst") (.ok answers)).outcome =
      .error (.file (.ofText "in.lst") .brokenPipe) ∧
    (report.processOpened (.ofText "in.lst") (.ok answers)).report.groups.toList =
      CellGroup.unfinished (report.process ["A1", "B1"]).report.groups.toList := by
  obtain ⟨report, hload, hcheck⟩ := exists_of_sample
    (fun report => (report.process ["A1", "B1"]).outcome.toOption == some ⟨2, 0, 0, 0, 2, 5⟩ &&
      report.encoding == .utf8) (by decide +kernel)
  obtain ⟨hpass, hencoding⟩ := Bool.and_eq_true_iff.mp hcheck
  have hok := eq_ok_of_toOption (beq_iff_eq.mp hpass)
  let answers : List Answer :=
    [.block [0x41, 0x31, 0x0D, 0x0A, 0x42], .interrupted, .block [0x31, 0x0A, 0x42], .failed .brokenPipe]
  have hgives : (LineReader.start report.encoding answers).Gives
      (["A1", "B1"].map .ok ++ [.error .brokenPipe]) := by
    rw [beq_iff_eq.mp hencoding]
    exact LineReader.gives_reading answers (Decoder.start .utf8) []
  obtain ⟨houtcome, hgroups, -⟩ := ((processFile_law (ofText_isLoaded hload) (.ofText "in.lst")).1
    (.ok answers)).unread answers _ _ _ rfl hgives hok
  exact ⟨report, answers, ofText_isLoaded hload, hgives, hok, houtcome, hgroups⟩

end Report

end ListingGrid
