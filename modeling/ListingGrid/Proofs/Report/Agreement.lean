import ListingGrid.Proofs.Report.Loaded

/-!
# What a pass depends on

Of the marks of sections a pass sees only those of sections that are taken once,
and of the grid of the pass before it nothing. Reports that agree on the rest pass
every listing alike, and agree again behind it.
-/

set_option autoImplicit false

namespace ListingGrid

def Section.settled (s : Section) : Section := { s with processed := s.once && s.processed }

def Report.settled (report : Report) : Report :=
  { report with sections := report.sections.map Section.settled, groups := #[], rows := 0 }

/-- Whether states of passes differ in marks without effect at most. -/
def PassState.Agrees (a b : PassState) : Prop :=
  ∃ sections, b = { a with sections } ∧
    a.sections.map Section.settled = sections.map Section.settled

def PassState.Matched (x y : PassState × Option ReportError) : Prop := x.1.Agrees y.1 ∧ x.2 = y.2

/-- Whether passes end alike, and leave reports that agree. -/
structure PassResult.Agrees (a b : PassResult) : Prop where
  report : a.report.settled = b.report.settled
  groups : a.report.groups = b.report.groups
  rows : a.report.rows = b.report.rows
  outcome : a.outcome = b.outcome
  journal : a.journal = b.journal

namespace Section

variable {a b : Section} {s t : List Section}

theorem alike_of_settled (h : a.settled = b.settled) : a.Alike b :=
  (congrArg resetProcessed h :)

theorem exhausted_of_settled (h : a.settled = b.settled) : a.isExhausted = b.isExhausted :=
  (congrArg processed h :)

theorem marked_of_settled (h : a.settled = b.settled) :
    a.markProcessed.settled = b.markProcessed.settled :=
  (congrArg (fun s => s.markProcessed.settled) h :)

theorem settled_at (h : s.map settled = t.map settled) (i : Nat) :
    (s[i]? = none ∧ t[i]? = none) ∨
      ∃ a b, s[i]? = some a ∧ t[i]? = some b ∧ a.settled = b.settled := by
  have hi : s[i]?.map settled = t[i]?.map settled := by
    rw [← List.getElem?_map, ← List.getElem?_map, h]
  cases hs : s[i]? with
  | none => cases ht : t[i]? <;> simp_all
  | some a => cases ht : t[i]? <;> simp_all

end Section

namespace Layout

variable {s t : List Section}

theorem closeGroup_settled (h : s.map Section.settled = t.map Section.settled) (l : Layout)
    (line : String) (followed : Bool) : l.closeGroup s line followed = l.closeGroup t line followed := by
  unfold closeGroup
  cases l.active with
  | none => rfl
  | some group =>
    rcases Section.settled_at h group.sectionIndex with ⟨hs, ht⟩ | ⟨a, b, hs, ht, hab⟩
    · simp only [hs, ht]
    · have halike := Section.alike_of_settled hab
      simp only [hs, ht, halike.footer, halike.blankRow]

theorem openGroup_alike {a b : Section} (h : a.Alike b) (l : Layout) (index : Nat) (line : String) :
    l.openGroup index a line = l.openGroup index b line := by
  unfold openGroup
  rw [h.header]

end Layout

namespace PassState

variable {a b : PassState}

theorem Agrees.sections (h : a.Agrees b) :
    a.sections.map Section.settled = b.sections.map Section.settled := by
  obtain ⟨sections, rfl, hs⟩ := h
  exact hs

theorem Agrees.layout (h : a.Agrees b) : a.layout = b.layout := by
  obtain ⟨sections, rfl, -⟩ := h
  rfl

theorem Agrees.note (h : a.Agrees b) (n : PassNote) : (a.note n).Agrees (b.note n) := by
  obtain ⟨sections, rfl, hs⟩ := h
  exact ⟨sections, rfl, hs⟩

/-- States with faults that match either go on alike or stop alike. -/
theorem Matched.cases {x y : PassState × Option ReportError} (h : Matched x y) :
    (∃ s t, x = (s, none) ∧ y = (t, none) ∧ s.Agrees t) ∨
      ∃ s t e, x = (s, some e) ∧ y = (t, some e) ∧ s.Agrees t := by
  obtain ⟨s, fault⟩ := x
  obtain ⟨t, fault'⟩ := y
  obtain ⟨hst, rfl⟩ : s.Agrees t ∧ fault = fault' := h
  cases fault with
  | none => exact .inl ⟨s, t, rfl, rfl, hst⟩
  | some e => exact .inr ⟨s, t, e, rfl, rfl, hst⟩

theorem Agrees.lay (h : a.Agrees b) (laid : Laid) : Matched (a.lay laid) (b.lay laid) := by
  obtain ⟨sections, rfl, hs⟩ := h
  exact ⟨⟨sections, rfl, hs⟩, rfl⟩

theorem Agrees.closeGroup (h : a.Agrees b) (line : String) (followed : Bool) :
    Matched (a.closeGroup line followed) (b.closeGroup line followed) := by
  have hlaid := Layout.closeGroup_settled h.sections a.layout line followed
  unfold PassState.closeGroup
  simp only [← h.layout, ← hlaid]
  cases a.layout.active with
  | none => exact h.lay _
  | some group =>
    cases (a.layout.closeGroup a.sections line followed).fault with
    | none => exact (h.note _).lay _
    | some fault => exact h.lay _

theorem Agrees.openGroup (h : a.Agrees b) (index : Nat) {s t : Section} (hst : s.Alike t)
    (line : String) : Matched (a.openGroup index s line) (b.openGroup index t line) := by
  unfold PassState.openGroup
  simp only [← h.layout, ← Layout.openGroup_alike hst, hst.header]
  exact (h.note _).lay _

theorem Agrees.enterSection (h : a.Agrees b) (index : Nat) {s t : Section} (hst : s.Alike t)
    (line : String) : Matched (a.enterSection index s line) (b.enterSection index t line) := by
  unfold PassState.enterSection
  rw [← h.layout]
  by_cases hactive : a.layout.activeSection = some index
  · rw [if_pos hactive, if_pos hactive]
    exact ⟨h, rfl⟩
  · rw [if_neg hactive, if_neg hactive]
    rcases (h.closeGroup line true).cases with ⟨a', b', ha, hb, hclosed⟩ |
      ⟨a', b', e, ha, hb, hclosed⟩
    · rw [ha, hb]
      exact hclosed.openGroup index hst line
    · rw [ha, hb]
      exact ⟨hclosed, rfl⟩

theorem Agrees.mark (h : a.Agrees b) (index : Nat) (line : String) :
    ({ a with sections := a.sections.modify index Section.markProcessed, lastLine := line } :
      PassState).Agrees
      { b with sections := b.sections.modify index Section.markProcessed, lastLine := line } := by
  obtain ⟨sections, rfl, hs⟩ := h
  refine ⟨sections.modify index Section.markProcessed, rfl, List.ext_getElem? fun i => ?_⟩
  rw [List.getElem?_map, List.getElem?_map, List.getElem?_modify, List.getElem?_modify]
  rcases Section.settled_at hs i with ⟨ha, hb⟩ | ⟨s, t, ha, hb, hst⟩
  · rw [ha, hb]
  · have hmarked := Section.marked_of_settled hst
    rw [ha, hb]
    by_cases hi : index = i <;> simp [hi, hst, hmarked]

theorem Agrees.storeLine (h : a.Agrees b) (index position : Nat) (line : String) :
    Matched (a.storeLine index position line) (b.storeLine index position line) := by
  unfold PassState.storeLine
  rcases Section.settled_at h.sections index with ⟨hs, ht⟩ | ⟨s, t, hs, ht, hst⟩
  · simp only [hs, ht]
    exact ⟨h, rfl⟩
  · have halike := Section.alike_of_settled hst
    simp only [hs, ht, halike.body]
    cases t.body[position]? with
    | none => exact ⟨h, rfl⟩
    | some fieldset =>
      rcases (h.enterSection index halike line).cases with ⟨a', b', ha, hb, hentered⟩ |
        ⟨a', b', e, ha, hb, hentered⟩
      · simp only [ha, hb, ← hentered.layout]
        rcases a'.layout.store .body position fieldset line with ⟨l, fault⟩
        have hlaid := hentered.lay ⟨l, fault⟩
        cases fault with
        | some fault => exact hlaid
        | none => exact ⟨hlaid.1.mark index line, rfl⟩
      · simp only [ha, hb]
        exact ⟨hentered, rfl⟩

end PassState

namespace Report

variable {a b : Report}

theorem settled_sections (h : a.settled = b.settled) :
    a.sections.map Section.settled = b.sections.map Section.settled :=
  (congrArg sections h :)

theorem fate_settled (h : a.settled = b.settled) {s t : List Section}
    (hst : s.map Section.settled = t.map Section.settled) (line : String) :
    a.fate s line = b.fate t line := by
  have hx : a.excludeFilters = b.excludeFilters := (congrArg excludeFilters h :)
  have hr : a.routes = b.routes := (congrArg routes h :)
  unfold fate
  rw [hx, hr]
  by_cases hexcluded : b.excludeFilters.any (·.isMatch line) = true
  · rw [if_pos hexcluded, if_pos hexcluded]
  · rw [if_neg hexcluded, if_neg hexcluded]
    cases b.routes.find? (·.filter.isMatch line) with
    | none => rfl
    | some route =>
      rcases Section.settled_at hst route.sectionIndex with ⟨hs, ht⟩ | ⟨u, v, hs, ht, huv⟩
      · simp only [hs, ht]
      · simp only [hs, ht, Section.exhausted_of_settled huv]

end Report

namespace PassState

variable {report report' : Report} {a b : PassState}

theorem Agrees.readLine (hreport : report.settled = report'.settled) (h : a.Agrees b)
    (line : String) : Matched (readLine report a line) (readLine report' b line) := by
  obtain ⟨sections, rfl, hs⟩ := h
  unfold PassState.readLine
  simp only [Report.fate_settled hreport hs]
  have hadvanced : ({ a with layout := { a.layout with line := a.layout.line + 1 } } :
      PassState).Agrees
      { a with sections, layout := { a.layout with line := a.layout.line + 1 } } :=
    ⟨sections, rfl, hs⟩
  cases report'.fate sections line with
  | excluded => exact ⟨⟨sections, rfl, hs⟩, rfl⟩
  | unmatched => exact ⟨⟨sections, rfl, hs⟩, rfl⟩
  | skipped index => exact ⟨⟨sections, rfl, hs⟩, rfl⟩
  | stored index position => exact (hadvanced.note _).storeLine index position line

theorem Agrees.readItems (hreport : report.settled = report'.settled) (h : a.Agrees b)
    (items : List Item) : Matched (readItems report a items) (readItems report' b items) := by
  induction items generalizing a b with
  | nil => exact ⟨h, rfl⟩
  | cons item more ih =>
    cases item with
    | malformed => exact ih (h.note .malformed)
    | line text =>
      unfold PassState.readItems
      rcases (h.readLine hreport text).cases with ⟨a', b', ha, hb, hread⟩ |
        ⟨a', b', e, ha, hb, hread⟩
      · rw [ha, hb]
        exact ih hread
      · rw [ha, hb]
        exact ⟨hread, rfl⟩

end PassState

namespace Report

variable {a b : Report}

theorem conclude_agrees (h : a.settled = b.settled) {s t : PassState} (hst : s.Agrees t)
    (path : Option Path) (fault : Option ReportError) :
    (a.conclude s path fault).Agrees (b.conclude t path fault) := by
  obtain ⟨sections, rfl, hs⟩ := hst
  have hsettled : ∀ groups rows groups' rows',
      ({ a with sections := s.sections, groups := groups, rows := rows } : Report).settled =
        ({ b with sections := sections, groups := groups', rows := rows' } : Report).settled := by
    intro groups rows groups' rows'
    have hrest := congrArg (fun r : Report => { r with sections := sections.map Section.settled }) h
    simpa [settled, hs] using hrest
  unfold conclude
  cases fault with
  | none => exact ⟨hsettled .., rfl, rfl, rfl, rfl⟩
  | some e => exact ⟨hsettled .., rfl, rfl, rfl, rfl⟩

/-- Reports that agree on what passes depend on pass every listing alike. -/
theorem run_agrees (h : a.settled = b.settled) (reading : Reading) (path : Option Path) :
    (a.run reading path).Agrees (b.run reading path) := by
  have hstart : (PassState.start a.sections).Agrees (PassState.start b.sections) :=
    ⟨b.sections, rfl, settled_sections h⟩
  unfold run
  rcases (hstart.readItems h reading.items).cases with ⟨s, t, ha, hb, hread⟩ |
    ⟨s, t, e, ha, hb, hread⟩
  · rw [ha, hb]
    cases reading.failure with
    | some cause => exact conclude_agrees h hread path _
    | none =>
      have hlast : s.lastLine = t.lastLine := by
        obtain ⟨sections, rfl, -⟩ := hread
        rfl
      obtain ⟨hclosed, hfault⟩ := hread.closeGroup s.lastLine false
      simp only [← hlast, ← hfault]
      exact conclude_agrees h hclosed path _
  · rw [ha, hb]
    exact conclude_agrees h hread path _

end Report

end ListingGrid
