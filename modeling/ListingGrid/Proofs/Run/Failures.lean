import ListingGrid.Proofs.Files.OutputPath
import ListingGrid.Proofs.Report.History
import ListingGrid.Run.Basic

/-!
# Listings that fail

A listing that fails has no output, and all that it leaves behind for the listings
after it are the marks of sections that are taken once and that it stored a line
of. So a run does the same as one over the listings that succeed, in which such
sections are marked where the failing listings were.
-/

set_option autoImplicit false

namespace ListingGrid

def Report.mark (report : Report) (taken : List Nat) : Report :=
  { report with sections := Section.marked taken report.sections }

namespace RunState

def laidBy (st : RunState) (listing : Path) : List StoredLine :=
  match st.store.openListing listing with
  | .ok answers => st.report.laidLines (Reading.ofAnswers st.report.encoding answers).lines
  | .error _ => []

def takenBy (st : RunState) (listing : Path) : List Nat :=
  ((st.laidBy listing).filter (·.source.once)).map (·.sectionIndex)

/-- The listings that succeed, each with the sections that are taken once and that
the listings failing in front of it stored a line of. `taken` are such sections
from before. -/
def kept (st : RunState) (options : RunOptions) (clock : Clock) (taken : List Nat) :
    List Path → List (List Nat × Path)
  | [] => []
  | listing :: more =>
    let (after, result) := st.processListing options (clock 0) listing
    if result.isOk then (taken, listing) :: after.kept options (clock.behind 1) [] more
    else after.kept options (clock.behind 1) (taken ++ st.takenBy listing) more

/-- Passes listings through the report in turn, and marks sections before each. -/
def processMarked (st : RunState) (options : RunOptions) (clock : Clock) :
    List (List Nat × Path) → RunState × List ListingResult
  | [] => (st, [])
  | (taken, listing) :: more =>
    let (st, result) :=
      { st with report := st.report.mark taken }.processListing options (clock 0) listing
    let (st, results) := st.processMarked options (clock.behind 1) more
    (st, result :: results)

end RunState

namespace Report

variable {a b : Report}

/-- What is written of a report depends on its definition and its groups alone. -/
theorem contents_settled (h : a.settled = b.settled) (hg : a.groups = b.groups)
    (format : OutputFormat) (options : RenderOptions) :
    a.contents format options = b.contents format options := by
  obtain ⟨title, description, encoding, widths, styles, filters, routes, sections, groups, rows⟩ := a
  obtain ⟨title', description', encoding', widths', styles', filters', routes', sections', groups',
    rows'⟩ := b
  simp only [settled, Report.mk.injEq] at h
  obtain ⟨rfl, rfl, rfl, rfl, rfl, -, -, -, -, -⟩ := h
  obtain rfl : groups = groups' := hg
  cases format <;> rfl

/-- Reports that agree on what passes depend on pass every file alike. -/
theorem processFile_agrees (h : a.settled = b.settled) (store : Store) (path : Path) :
    (a.processFile store path).report.settled = (b.processFile store path).report.settled ∧
      (a.processFile store path).outcome = (b.processFile store path).outcome ∧
      ∀ summary, (a.processFile store path).outcome = .ok summary →
        (a.processFile store path).report.groups = (b.processFile store path).report.groups := by
  have hencoding : a.encoding = b.encoding := (congrArg encoding h :)
  unfold processFile processOpened
  cases store.openListing path with
  | error cause => exact ⟨h, rfl, by simp⟩
  | ok answers =>
    have hrun := run_agrees h (Reading.ofAnswers b.encoding answers) (some path)
    simp only [hencoding]
    exact ⟨hrun.report, hrun.outcome, fun _ _ => hrun.groups⟩

theorem mark_settled (h : a.settled = b.settled) (taken : List Nat) :
    (a.mark taken).settled = (b.mark taken).settled := by
  have hsections := settled_sections h
  have hmarked : (Section.marked taken a.sections).map Section.settled =
      (Section.marked taken b.sections).map Section.settled := by
    apply List.ext_getElem?
    intro i
    simp only [Section.marked, List.getElem?_map, List.getElem?_mapIdx]
    rcases Section.settled_at hsections i with ⟨ha, hb⟩ | ⟨s, t, ha, hb, hst⟩
    · simp [ha, hb]
    · have hm := Section.marked_of_settled hst
      by_cases hi : i ∈ taken <;> simp [ha, hb, hi, hm, hst]
  have hrest := congrArg
    (fun r => { r with sections := (Section.marked taken b.sections).map Section.settled }) h
  rw [settled, mark, hmarked]
  exact hrest

theorem mark_nil (report : Report) : report.mark [] = report := by
  rw [mark, Section.marked_nil]

theorem mark_mark (report : Report) (taken more : List Nat) :
    (report.mark taken).mark more = report.mark (taken ++ more) := by
  rw [mark, mark, mark, Section.marked_marked]

/-- Marks of sections that are not taken once have no effect. -/
theorem mark_once {report : Report} {laid : List StoredLine}
    (h : ∀ x ∈ laid, report.sections[x.sectionIndex]? = some x.source) :
    (report.mark (laid.map (·.sectionIndex))).settled =
      (report.mark ((laid.filter (·.source.once)).map (·.sectionIndex))).settled := by
  have hsections : (Section.marked (laid.map (·.sectionIndex)) report.sections).map
      Section.settled =
      (Section.marked ((laid.filter (·.source.once)).map (·.sectionIndex)) report.sections).map
        Section.settled := by
    apply List.ext_getElem?
    intro i
    simp only [Section.marked, List.getElem?_map, List.getElem?_mapIdx]
    cases hs : report.sections[i]? with
    | none => rfl
    | some s =>
      have hmem : s.once = true → (i ∈ (laid.filter (·.source.once)).map (·.sectionIndex) ↔
          i ∈ laid.map (·.sectionIndex)) := by
        intro ho
        simp only [List.mem_map, List.mem_filter]
        constructor
        · rintro ⟨x, ⟨hx, -⟩, hi⟩
          exact ⟨x, hx, hi⟩
        · rintro ⟨x, hx, rfl⟩
          obtain rfl := Option.some.inj ((h x hx).symm.trans hs)
          exact ⟨x, ⟨hx, ho⟩, rfl⟩
      cases ho : s.once with
      | true => simp [hmem ho]
      | false =>
        have hsettled : s.markProcessed.settled = s.settled := by
          simp [Section.settled, Section.markProcessed, ho]
        simp only [Option.map_some, Option.some.injEq]
        split <;> split <;> simp [hsettled]
  rw [settled, settled, mark, mark, hsections]

/-- Whether a section is taken from a listing only once. -/
def TakesOnce (report : Report) (i : Nat) : Prop :=
  ∃ s, report.sections[i]? = some s ∧ s.once = true

theorem takesOnce_settled (h : a.settled = b.settled) (i : Nat) :
    a.TakesOnce i ↔ b.TakesOnce i := by
  have hsections := settled_sections h
  unfold TakesOnce
  rcases Section.settled_at hsections i with ⟨ha, hb⟩ | ⟨s, t, ha, hb, hst⟩
  · simp [ha, hb]
  · simp [ha, hb, (Section.alike_of_settled hst).once]

theorem takesOnce_mark (report : Report) (taken : List Nat) (i : Nat) :
    (report.mark taken).TakesOnce i ↔ report.TakesOnce i := by
  unfold TakesOnce mark
  cases hs : report.sections[i]? with
  | none => simp [Section.marked, hs]
  | some s =>
    obtain ⟨t, ht, halike, -⟩ := Section.marked_alike taken hs
    simp [ht, halike.once]

end Report

/-- What becomes of the grid of a pass: the output of the listing and the files with
it, or why there is none. -/
def PassResult.delivered (pass : PassResult) (store : Store) (options : RunOptions)
    (now : TimeStamp) (listing : Path) : Except ListingError (ListingOutput × Store) :=
  match pass.outcome with
  | .error cause => .error (.pass listing cause)
  | .ok summary =>
    match pass.report.contents options.naming.format options.render with
    | .error cause => .error (.workbook cause)
    | .ok contents =>
      match store.write (options.naming.path listing now) contents with
      | .ok store => .ok (⟨options.naming.path listing now, summary⟩, store)
      | .error cause =>
        match contents with
        | .workbook _ => .error (.write (options.naming.path listing now) cause)
        | .bytes _ => .error (.create (options.naming.path listing now) cause)

namespace RunState

/-- All that a listing does, apart from what is told about it. -/
theorem processListing_delivered (st : RunState) (options : RunOptions) (now : TimeStamp)
    (listing : Path) :
    ∃ events, st.processListing options now listing =
      match (st.report.processFile st.store listing).delivered st.store options now listing with
      | .error e =>
        (⟨(st.report.processFile st.store listing).report, st.store, events⟩, ⟨listing, .error e⟩)
      | .ok (output, store) =>
        (⟨(st.report.processFile st.store listing).report, store, events⟩,
          ⟨listing, .ok output⟩) := by
  unfold processListing PassResult.delivered
  cases hpass : (st.report.processFile st.store listing).outcome with
  | error cause =>
    simp only [hpass]
    exact ⟨_, rfl⟩
  | ok summary =>
    simp only [hpass, writeOutput, tell]
    cases hc : (st.report.processFile st.store listing).report.contents options.naming.format
        options.render with
    | error cause => exact ⟨_, rfl⟩
    | ok contents =>
      cases hw : st.store.write (options.naming.path listing now) contents with
      | ok store =>
        simp only [hw]
        exact ⟨_, rfl⟩
      | error cause =>
        simp only [hw]
        cases contents <;> exact ⟨_, rfl⟩

variable {a b : RunState}

/-- Whether states of a run have the same files and pass every listing alike. -/
structure Agrees (a b : RunState) : Prop where
  report : a.report.settled = b.report.settled
  store : a.store = b.store

/-- Such states have the same result for every listing, and stay so. -/
theorem processListing_agrees (h : a.Agrees b) (options : RunOptions) (now : TimeStamp)
    (listing : Path) :
    (a.processListing options now listing).1.Agrees (b.processListing options now listing).1 ∧
      (a.processListing options now listing).2 = (b.processListing options now listing).2 := by
  obtain ⟨hreport, houtcome, hgroups⟩ := Report.processFile_agrees h.report b.store listing
  have hdelivered : (a.report.processFile b.store listing).delivered b.store options now listing =
      (b.report.processFile b.store listing).delivered b.store options now listing := by
    unfold PassResult.delivered
    rw [← houtcome]
    cases hpass : (a.report.processFile b.store listing).outcome with
    | error cause => rfl
    | ok summary =>
      have hcontents := Report.contents_settled hreport (hgroups summary hpass)
      simp only [hcontents]
  obtain ⟨events, ha⟩ := a.processListing_delivered options now listing
  obtain ⟨events', hb⟩ := b.processListing_delivered options now listing
  rw [h.store, hdelivered] at ha
  rw [ha, hb]
  cases (b.report.processFile b.store listing).delivered b.store options now listing with
  | error e => exact ⟨⟨hreport, rfl⟩, rfl⟩
  | ok delivered => exact ⟨⟨hreport, rfl⟩, rfl⟩

/-- Whatever becomes of its output, a listing leaves the report as its pass does. -/
theorem processListing_report (st : RunState) (options : RunOptions) (now : TimeStamp)
    (listing : Path) :
    (st.processListing options now listing).1.report =
      (st.report.processFile st.store listing).report := by
  obtain ⟨events, h⟩ := st.processListing_delivered options now listing
  rw [h]
  cases (st.report.processFile st.store listing).delivered st.store options now listing <;> rfl

theorem processListing_failed {st : RunState} {options : RunOptions} {now : TimeStamp} {listing : Path}
    (hfail : (st.processListing options now listing).2.isOk = false) :
    (st.processListing options now listing).1.store = st.store := by
  obtain ⟨events, h⟩ := st.processListing_delivered options now listing
  rw [h] at hfail ⊢
  cases hd : (st.report.processFile st.store listing).delivered st.store options now listing with
  | error e => rfl
  | ok delivered => simp [hd, ListingResult.isOk] at hfail

theorem processListing_listing (st : RunState) (options : RunOptions) (now : TimeStamp)
    (listing : Path) :
    (st.processListing options now listing).2.listing = listing := by
  obtain ⟨events, h⟩ := st.processListing_delivered options now listing
  rw [h]
  cases (st.report.processFile st.store listing).delivered st.store options now listing <;> rfl

theorem laidBy_section (st : RunState) (listing : Path) {x : StoredLine}
    (h : x ∈ st.laidBy listing) : st.report.sections[x.sectionIndex]? = some x.source := by
  unfold laidBy at h
  split at h
  · exact (Report.mem_storedLines ((List.takeWhile_sublist _).mem h)).1
  · simp at h

/-- What the pass over a listing leaves behind for the passes after it. -/
theorem processFile_settled {st : RunState} (h : st.report.Sound) (listing : Path) :
    (st.report.processFile st.store listing).report.settled =
        (st.report.mark (st.takenBy listing)).settled ∧
      (st.report.processFile st.store listing).report.Sound := by
  have hmark := Report.mark_once fun x hx => laidBy_section st listing hx
  rw [takenBy, ← hmark]
  unfold Report.processFile Report.processOpened laidBy
  cases st.store.openListing listing with
  | error cause =>
    simp only [List.map_nil, Report.mark_nil]
    exact ⟨trivial, h⟩
  | ok answers =>
    have hafter := (Report.run_ends h (Reading.ofAnswers st.report.encoding answers)
      (some listing)).2
    exact ⟨(congrArg Report.settled hafter).trans rfl, Report.run_sound h _ _⟩

theorem takenBy_once {st : RunState} {listing : Path} {i : Nat} (h : i ∈ st.takenBy listing) :
    st.report.TakesOnce i := by
  obtain ⟨x, hx, rfl⟩ := List.mem_map.mp h
  obtain ⟨hlaid, ho⟩ := List.mem_filter.mp hx
  exact ⟨x.source, laidBy_section st listing hlaid, ho⟩

/-- Without time stamps it makes no difference when a listing has its turn. -/
theorem processListing_unstamped {options : RunOptions} (h : options.naming.timeStamp = false)
    (st : RunState) (now later : TimeStamp) (listing : Path) :
    st.processListing options now listing = st.processListing options later listing := by
  unfold processListing
  rw [OutputNaming.path_unstamped h, OutputNaming.path_unstamped h]

/-- A run over listings has the results and leaves the files of a run over those of
them that succeed, where sections are marked instead of running the others. -/
theorem processMarked_kept (hsound : a.report.Sound) (taken : List Nat)
    (hreport : (b.report.mark taken).settled = a.report.settled) (hstore : b.store = a.store)
    {options : RunOptions} (hstamp : options.naming.timeStamp = false) (clock other : Clock)
    (listings : List Path) :
    (b.processMarked options other (a.kept options clock taken listings)).2 =
        (a.processListings options clock listings).2.filter ListingResult.isOk ∧
      (b.processMarked options other (a.kept options clock taken listings)).1.store =
        (a.processListings options clock listings).1.store := by
  -- `a` is the whole run and `b` the other one; `taken` are marks that `a` has and `b` not yet.
  induction listings generalizing a b taken clock other with
  | nil => exact ⟨rfl, hstore⟩
  | cons listing more ih =>
    obtain ⟨hsettled, hsound'⟩ := processFile_settled hsound listing
    rw [← a.processListing_report options (clock 0)] at hsettled hsound'
    simp only [kept, processListings]
    cases hok : (a.processListing options (clock 0) listing).2.isOk with
    | true =>
      have hagrees : RunState.Agrees { b with report := b.report.mark taken } a :=
        ⟨hreport, hstore⟩
      obtain ⟨hafter, hresult⟩ := processListing_agrees hagrees options (clock 0) listing
      rw [processListing_unstamped hstamp _ _ (other 0)] at hafter hresult
      obtain ⟨hresults, hfiles⟩ :=
        ih hsound' [] (by rw [Report.mark_nil]; exact hafter.report) hafter.store _ _
      rw [if_pos rfl, processMarked, List.filter_cons_of_pos hok]
      exact ⟨congrArg₂ List.cons hresult hresults, hfiles⟩
    | false =>
      have hmarked : (b.report.mark (taken ++ a.takenBy listing)).settled =
          (a.processListing options (clock 0) listing).1.report.settled := by
        rw [hsettled, ← Report.mark_mark]
        exact Report.mark_settled hreport _
      have hfiles : b.store = (a.processListing options (clock 0) listing).1.store :=
        hstore.trans (processListing_failed hok).symm
      rw [if_neg (by simp), List.filter_cons_of_neg (by simp [hok])]
      exact ih hsound' _ hmarked hfiles _ other

theorem kept_listings (st : RunState) (options : RunOptions) (clock : Clock) (taken : List Nat)
    (listings : List Path) :
    (st.kept options clock taken listings).map (·.2) =
      ((st.processListings options clock listings).2.filter ListingResult.isOk).map
        (·.listing) := by
  induction listings generalizing st clock taken with
  | nil => rfl
  | cons listing more ih =>
    have hlisting := st.processListing_listing options (clock 0) listing
    simp only [kept, processListings]
    cases hok : (st.processListing options (clock 0) listing).2.isOk with
    | true =>
      rw [if_pos rfl, List.filter_cons_of_pos hok, List.map_cons, List.map_cons, ih, hlisting]
    | false =>
      rw [if_neg (by simp), List.filter_cons_of_neg (by simp [hok]), ih]

/-- Where nothing is marked, listings are passed as they are. -/
theorem processMarked_unmarked (st : RunState) (options : RunOptions) (clock : Clock)
    {kept : List (List Nat × Path)} (h : ∀ p ∈ kept, p.1 = []) :
    st.processMarked options clock kept = st.processListings options clock (kept.map (·.2)) := by
  induction kept generalizing st clock with
  | nil => rfl
  | cons p more ih =>
    obtain ⟨taken, listing⟩ := p
    obtain rfl : taken = [] := h (taken, listing) (by simp)
    simp only [processMarked, List.map_cons, processListings, Report.mark_nil]
    rw [ih _ _ fun q hq => h q (by simp [hq])]

theorem kept_once {st : RunState} (hsound : st.report.Sound) (options : RunOptions)
    (clock : Clock) {taken : List Nat} (htaken : ∀ i ∈ taken, st.report.TakesOnce i)
    (listings : List Path) :
    ∀ p ∈ st.kept options clock taken listings, ∀ i ∈ p.1, st.report.TakesOnce i := by
  induction listings generalizing st clock taken with
  | nil => simp [kept]
  | cons listing more ih =>
    obtain ⟨hsettled, hsound'⟩ := processFile_settled hsound listing
    rw [← st.processListing_report options (clock 0)] at hsettled hsound'
    have hafter : ∀ i, (st.processListing options (clock 0) listing).1.report.TakesOnce i ↔
        st.report.TakesOnce i := fun i =>
      (Report.takesOnce_settled hsettled i).trans (Report.takesOnce_mark ..)
    simp only [kept]
    cases hok : (st.processListing options (clock 0) listing).2.isOk with
    | true =>
      rw [if_pos rfl]
      intro p hp i hi
      rcases List.mem_cons.mp hp with rfl | hp
      · exact htaken i hi
      · exact (hafter i).mp (ih hsound' _ (by simp) p hp i hi)
    | false =>
      rw [if_neg (by simp)]
      have hmore : ∀ i ∈ taken ++ st.takenBy listing,
          (st.processListing options (clock 0) listing).1.report.TakesOnce i := by
        intro i hi
        rcases List.mem_append.mp hi with hi | hi
        · exact (hafter i).mpr (htaken i hi)
        · exact (hafter i).mpr (takenBy_once hi)
      intro p hp i hi
      exact (hafter i).mp (ih hsound' _ hmore p hp i hi)

/-- Without time stamps, a run does for the listings that succeed what it does without
the others, but for the marks of sections that are taken once and that a failing listing
stored a line of. Without such a line it is just the run without them. Either run has its
own clock. -/
theorem failures_leave_marks {report : Report} {text : String} (h : report.IsLoaded text)
    (store : Store) (events : Array LogEvent) {options : RunOptions}
    (hstamp : options.naming.timeStamp = false) (listings : List Path) (clock other : Clock) :
    let st : RunState := ⟨report, store, events⟩
    let run := st.processListings options clock listings
    let kept := st.kept options clock [] listings
    kept.map (·.2) = (run.2.filter ListingResult.isOk).map (·.listing) ∧
      (∀ p ∈ kept, ∀ i ∈ p.1, report.TakesOnce i) ∧
      (st.processMarked options other kept).2 = run.2.filter ListingResult.isOk ∧
      (st.processMarked options other kept).1.store = run.1.store ∧
      ((∀ p ∈ kept, p.1 = []) →
        (st.processListings options other (kept.map (·.2))).2 =
          run.2.filter ListingResult.isOk ∧
        (st.processListings options other (kept.map (·.2))).1.store = run.1.store) := by
  intro st run kept
  have hsound : st.report.Sound := Report.loaded_sound h
  obtain ⟨hresults, hstore⟩ := processMarked_kept (b := st) hsound []
    (by rw [Report.mark_nil]) rfl hstamp clock other listings
  refine ⟨kept_listings .., kept_once hsound options clock (by simp) listings, hresults, hstore, ?_⟩
  intro hunmarked
  rw [← processMarked_unmarked st options other hunmarked]
  exact ⟨hresults, hstore⟩

/-- Two listings: the first stores a line of the section that is taken once, and then
has a value that does not follow its format; the second has a line of that section. -/
def sampleStore : Store :=
  ((Store.empty []).place (.ofText "bad") (.file (.bytes [65, 49, 10, 66, 120, 10]))).place
    (.ofText "good") (.file (.bytes [65, 50, 10]))

def sampleListings : List Path := [.ofText "bad", .ofText "good"]

def sampleOptions : RunOptions := ⟨⟨.ofText "", .csv, false, false⟩, ⟨"", none, 59, false⟩⟩

def sampleClock : Clock := fun _ => ⟨2024, 3, 9, 7, 5, 1⟩

theorem failures_leave_marks_sample : ∃ report : Report, report.IsLoaded Report.sampleText ∧
    sampleOptions.naming.timeStamp = false ∧
    (⟨report, sampleStore, #[]⟩ : RunState).kept sampleOptions sampleClock [] sampleListings =
      [([0], .ofText "good")] ∧
    ((⟨report, sampleStore, #[]⟩ : RunState).processMarked sampleOptions sampleClock
      [([0], .ofText "good")]).2 =
      ((⟨report, sampleStore, #[]⟩ : RunState).processListings sampleOptions sampleClock
        sampleListings).2.filter ListingResult.isOk := by
  obtain ⟨report, hload, hcheck⟩ := Report.exists_of_sample
    (fun report => (⟨report, sampleStore, #[]⟩ : RunState).kept sampleOptions sampleClock []
      sampleListings == [([0], .ofText "good")]) (by decide +kernel)
  have hkept := beq_iff_eq.mp hcheck
  obtain ⟨-, -, hresults, -⟩ := failures_leave_marks (Report.ofText_isLoaded hload) sampleStore #[]
    (show sampleOptions.naming.timeStamp = false from rfl) sampleListings sampleClock sampleClock
  rw [hkept] at hresults
  exact ⟨report, Report.ofText_isLoaded hload, rfl, hkept, hresults⟩

/-- With the failing listing in front of it, the second listing has its line skipped. -/
theorem failures_not_left_out : ¬∀ (report : Report) (text : String), report.IsLoaded text →
    ∀ (store : Store) (events : Array LogEvent) (options : RunOptions) (listings : List Path)
      (clock other : Clock), options.naming.timeStamp = false →
      (listings.map fun listing => options.naming.path listing (clock 0)).Nodup →
      (∀ listing ∈ listings, options.naming.path listing (clock 0) ∉ listings) →
      ((⟨report, store, events⟩ : RunState).processListings options other
          ((((⟨report, store, events⟩ : RunState).processListings options clock listings).2.filter
            ListingResult.isOk).map (·.listing))).2.map ListingResult.summary? =
        (((⟨report, store, events⟩ : RunState).processListings options clock listings).2.filter
          ListingResult.isOk).map ListingResult.summary? := by
  intro hclaim
  obtain ⟨report, hload, hcheck⟩ := Report.exists_of_sample
    (fun report =>
      ((⟨report, sampleStore, #[]⟩ : RunState).processListings sampleOptions sampleClock
          ((((⟨report, sampleStore, #[]⟩ : RunState).processListings sampleOptions sampleClock
            sampleListings).2.filter ListingResult.isOk).map (·.listing))).2.map
              ListingResult.summary? !=
        (((⟨report, sampleStore, #[]⟩ : RunState).processListings sampleOptions sampleClock
          sampleListings).2.filter ListingResult.isOk).map ListingResult.summary?)
    (by decide +kernel)
  exact bne_iff_ne.mp hcheck (hclaim report Report.sampleText (Report.ofText_isLoaded hload)
    sampleStore #[] sampleOptions sampleListings sampleClock sampleClock rfl (by decide +kernel)
    (by decide +kernel))

end RunState

end ListingGrid
