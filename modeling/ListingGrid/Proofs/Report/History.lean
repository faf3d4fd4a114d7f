import ListingGrid.Proofs.Report.Agreement
import ListingGrid.Proofs.Report.Shown

/-!
# Histories of a report

Once it is loaded, a report passes listings and has its marks reset, in any order.
Its marks tell which sections had a line stored since the last reset, and of its
past nothing but the marks of sections that are taken once has an influence.
-/

set_option autoImplicit false

namespace ListingGrid

inductive ReportEvent where
  | pass (reading : Reading) (path : Option Path)
  | reset

namespace Report

def apply (report : Report) : ReportEvent → Report
  | .pass reading path => (report.run reading path).report
  | .reset => report.resetProcessed

def applyAll (report : Report) (events : List ReportEvent) : Report := events.foldl apply report

/-- The lines that passes stored since the last reset. `laid` are those before the
events. -/
def laidSince : Report → List StoredLine → List ReportEvent → List StoredLine
  | _, laid, [] => laid
  | report, laid, .pass reading path :: more =>
    laidSince (report.apply (.pass reading path)) (laid ++ report.laidLines reading.lines) more
  | report, _, .reset :: more => laidSince (report.apply .reset) [] more

def isMarked (report : Report) (i : Nat) : Bool :=
  (report.sections[i]?.map (·.processed)).getD false

/-- The report with those sections marked that are taken once and that are given. -/
def markOnce (report : Report) (marks : Nat → Bool) : Report :=
  { report with
    sections := report.sections.mapIdx fun i s => if s.once && marks i then s.markProcessed else s }

/-- What the past of a report comes to, given how it was loaded and the lines that
were stored since the last reset. -/
structure PastLaw (fresh report : Report) (laid : List StoredLine) : Prop where
  sections : report.sections.map Section.resetProcessed = fresh.sections
  marks : ∀ i (s : Section), report.sections[i]? = some s →
    (s.processed = true ↔ ∃ x ∈ laid, x.sectionIndex = i)
  once : ∀ i (s : Section), report.sections[i]? = some s → s.once = true →
    (laid.map (·.sectionIndex)).count i ≤ 1
  skipped : ∀ lines i, .skipped i ∈ report.fates report.sections lines →
    ∃ s, report.sections[i]? = some s ∧ s.once = true
  counted : ∀ reading path summary, (report.run reading path).outcome = .ok summary →
    summary.skipped = (report.fates report.sections reading.lines).countP LineFate.isSkipped
  shown : ∀ reading path,
    (report.run reading path).report.groups.toList.flatMap CellGroup.bodyCells =
      (report.laidLines reading.lines).flatMap StoredLine.cells
  next : ∀ reading path,
    (report.run reading path).Agrees ((fresh.markOnce report.isMarked).run reading path)
  nextMarks : ∀ reading path (i : Nat) (s : Section),
    (report.run reading path).report.sections[i]? = some s → s.once = true →
    ∃ t : Section, t.processed = s.processed ∧
      ((fresh.markOnce report.isMarked).run reading path).report.sections[i]? = some t

variable {fresh report : Report} {laid : List StoredLine}

/-- A section that is taken once has one line stored at most, and none if it was
marked before. -/
theorem storedLines_once (h : report.Sound) {i : Nat} {s : Section}
    (hs : report.sections[i]? = some s) (ho : s.once = true) (lines : List String) :
    ((report.storedLines lines).map (·.sectionIndex)).count i ≤
      if s.processed then 0 else 1 := by
  induction lines using List.reverseRecOn with
  | nil => exact Nat.zero_le _
  | append_singleton lines line ih =>
    rw [storedLines_concat, List.map_append, List.count_append]
    have hfated := fate_fated h ((report.storedLines lines).map (·.sectionIndex)) line
    rw [← after_storedLines report h] at hfated
    generalize hfate : report.fate (report.after report.sections lines) line = fate at hfated ⊢
    cases hfated with
    | @stored route s' hx hr hs' hfree =>
      obtain ⟨x, hx, -, hi, -⟩ := storedLine_of_fate h hfate
      by_cases heq : route.sectionIndex = i
      · -- A line of the section itself is only stored while there was none before it.
        obtain rfl : s' = s := Option.some.inj (hs'.symm.trans (heq ▸ hs))
        have hunmarked : s'.processed = false ∧ i ∉ (report.storedLines lines).map (·.sectionIndex) := by
          simpa [ho, heq] using hfree
        rw [hx]
        simp [hi, heq, hunmarked.1, List.count_eq_zero.mpr hunmarked.2]
      · simpa [hx, hi, List.count_singleton, heq] using ih
    | _ => simpa [storedLine?] using ih

theorem laidLines_once (h : report.Sound) {i : Nat} {s : Section}
    (hs : report.sections[i]? = some s) (ho : s.once = true) (lines : List String) :
    ((report.laidLines lines).map (·.sectionIndex)).count i ≤ if s.processed then 0 else 1 := by
  have hsub : (report.laidLines lines).Sublist (report.storedLines lines) :=
    List.takeWhile_sublist _
  exact ((hsub.map (·.sectionIndex)).count_le i).trans (storedLines_once h hs ho lines)

theorem fates_skipped (h : report.Sound) {lines : List String} {i : Nat}
    (hi : .skipped i ∈ report.fates report.sections lines) :
    ∃ s, report.sections[i]? = some s ∧ s.once = true := by
  obtain ⟨k, hk⟩ := List.mem_iff_getElem?.mp hi
  have hlt : k < lines.length := by
    rw [← report.fates_length report.sections]
    exact (List.getElem?_eq_some_iff.mp hk).1
  have hfated := fates_fated h (List.getElem?_eq_getElem hlt) hk
  cases hfated with
  | skipped hx hr hs ho => exact ⟨_, hs, ho.1⟩

/-- A pass that succeeds counts the lines that it skips. -/
theorem run_skipped (h : report.Sound) {reading : Reading} {path : Option Path}
    {summary : PassSummary} (hok : (report.run reading path).outcome = .ok summary) :
    summary.skipped = (report.fates report.sections reading.lines).countP LineFate.isSkipped := by
  have hends := (run_ends h reading path).1
  rw [hok] at hends
  cases hends
  rfl

def frame (report : Report) : Report := { report with sections := [], groups := #[], rows := 0 }

/-- What is true of a report all along, given how it was loaded and the lines that
were stored since the last reset. -/
structure Past (fresh report : Report) (laid : List StoredLine) : Prop where
  frame : report.frame = fresh.frame
  sections : report.sections = Section.marked (laid.map (·.sectionIndex)) fresh.sections
  once : ∀ i (s : Section), fresh.sections[i]? = some s → s.once = true →
    (laid.map (·.sectionIndex)).count i ≤ 1

theorem past_loaded (fresh : Report) : Past fresh fresh [] :=
  ⟨rfl, by simp [Section.marked_nil], by simp⟩

theorem Past.sound (h : Past fresh report laid) (hf : fresh.Sound) : report.Sound := by
  have hroutes : report.routes = fresh.routes := (congrArg Report.routes h.frame :)
  exact sound_marked hf hroutes h.sections

theorem Past.pass (h : Past fresh report laid) (hf : fresh.Sound) (reading : Reading)
    (path : Option Path) :
    Past fresh (report.apply (.pass reading path)) (laid ++ report.laidLines reading.lines) := by
  have hsound := h.sound hf
  have hafter := (run_ends hsound reading path).2
  refine ⟨(congrArg Report.frame hafter).trans h.frame, ?_, ?_⟩
  · rw [List.map_append, ← Section.marked_marked, ← h.sections]
    exact congrArg Report.sections hafter
  · intro i s hs ho
    obtain ⟨t, ht, halike, hp⟩ := Section.marked_alike (laid.map (·.sectionIndex)) hs
    rw [← h.sections] at ht
    have hlaid := laidLines_once hsound ht (halike.once.trans ho) reading.lines
    rw [List.map_append, List.count_append]
    by_cases hi : i ∈ laid.map (·.sectionIndex)
    · have hbefore := h.once i s hs ho
      rw [hp, decide_eq_true hi, Bool.or_true, if_pos rfl] at hlaid
      omega
    · rw [List.count_eq_zero.mpr hi]
      split at hlaid <;> omega

theorem Past.reset (h : Past fresh report laid)
    (hf : fresh.sections.map Section.resetProcessed = fresh.sections) :
    Past fresh (report.apply .reset) [] := by
  have hsections : report.sections.map Section.resetProcessed = fresh.sections := by
    rw [h.sections, Section.marked_reset, hf]
  refine ⟨h.frame, ?_, by simp⟩
  rw [List.map_nil, Section.marked_nil]
  exact hsections

theorem past_applyAll (hf : fresh.Sound)
    (hunmarked : fresh.sections.map Section.resetProcessed = fresh.sections)
    (h : Past fresh report laid) (events : List ReportEvent) :
    Past fresh (report.applyAll events) (report.laidSince laid events) := by
  induction events generalizing report laid with
  | nil => exact h
  | cons event more ih =>
    cases event with
    | pass reading path => exact ih (h.pass hf reading path)
    | reset => exact ih (h.reset hunmarked)

/-- The report in which just the sections that are taken once keep their marks
agrees with the report. -/
theorem Past.settled (h : Past fresh report laid) :
    (fresh.markOnce report.isMarked).settled = report.settled := by
  have hsections : (fresh.markOnce report.isMarked).sections.map Section.settled =
      report.sections.map Section.settled := by
    apply List.ext_getElem?
    intro i
    rw [markOnce, List.getElem?_map, List.getElem?_map, List.getElem?_mapIdx, isMarked]
    cases hs : fresh.sections[i]? with
    | none => simp [h.sections, Section.marked, hs]
    | some s =>
      obtain ⟨t, ht, halike, hp⟩ := Section.marked_alike (laid.map (·.sectionIndex)) hs
      rw [h.sections, ht, halike.eq_with]
      cases ho : s.once <;> cases ht : t.processed <;>
        simp_all [Section.settled, Section.markProcessed]
  have hframe := congrArg
    (fun r => { r with sections := report.sections.map Section.settled }) h.frame.symm
  rw [Report.settled, hsections]
  exact hframe

/-- What holds of a report after any events since it was loaded. -/
theorem past_law {text : String} (hload : ofText text = .ok fresh) (events : List ReportEvent) :
    PastLaw fresh (fresh.applyAll events) (fresh.laidSince [] events) := by
  obtain ⟨hbuilt, -, -, -⟩ := ofText_built hload
  have hsound := ofText_sound hload
  have hunmarked : fresh.sections.map Section.resetProcessed = fresh.sections :=
    congrArg Report.sections (ofText_cleared hload)
  have hpast := past_applyAll hsound hunmarked (past_loaded fresh) events
  generalize fresh.applyAll events = report at hpast ⊢
  generalize fresh.laidSince [] events = laid at hpast ⊢
  have hreport := hpast.sound hsound
  have hfresh : ∀ i s, report.sections[i]? = some s → ∃ t, fresh.sections[i]? = some t ∧
      s.Alike t ∧ s.processed = decide (i ∈ laid.map (·.sectionIndex)) := by
    intro i s hs
    rw [hpast.sections] at hs
    obtain ⟨t, ht, halike, hp⟩ := Section.of_marked hs
    exact ⟨t, ht, halike, by simpa [(hbuilt t (List.mem_of_getElem? ht)).2] using hp⟩
  have hagrees := fun reading path => run_agrees hpast.settled.symm reading path
  refine ⟨?_, ?_, ?_, ?_, ?_, ?_, hagrees, ?_⟩
  · rw [hpast.sections, Section.marked_reset, hunmarked]
  · intro i s hs
    obtain ⟨t, -, -, hp⟩ := hfresh i s hs
    simp [hp]
  · intro i s hs ho
    obtain ⟨t, ht, halike, -⟩ := hfresh i s hs
    exact hpast.once i t ht (halike.once.symm.trans ho)
  · intro lines i hi
    exact fates_skipped hreport hi
  · intro reading path summary hok
    exact run_skipped hreport hok
  · intro reading path
    exact run_bodyCells hreport reading path
  · intro reading path i s hs ho
    have hsettled := settled_sections (hagrees reading path).report
    rcases Section.settled_at hsettled i with ⟨hnone, -⟩ | ⟨u, t, hu, ht, hut⟩
    · simp [hnone] at hs
    · obtain rfl := Option.some.inj (hu.symm.trans hs)
      have hexhausted := Section.exhausted_of_settled hut
      have honce := (Section.alike_of_settled hut).once
      refine ⟨t, ?_, ht⟩
      simpa [Section.isExhausted, ho, ← honce] using hexhausted.symm

/-- A pass that is stopped by its second line leaves the mark of its first. -/
theorem past_law_sample : ∃ fresh : Report, ofText sampleText = .ok fresh ∧
    (fresh.applyAll [.reset, .pass ⟨[.line "A1", .line "Bx"], none⟩ none]).isMarked 0 = true ∧
    PastLaw fresh (fresh.applyAll [.reset, .pass ⟨[.line "A1", .line "Bx"], none⟩ none])
      (fresh.laidSince [] [.reset, .pass ⟨[.line "A1", .line "Bx"], none⟩ none]) := by
  obtain ⟨fresh, hload, hcheck⟩ := exists_of_sample
    (fun fresh => (fresh.applyAll
      [.reset, .pass ⟨[.line "A1", .line "Bx"], none⟩ none]).isMarked 0) (by decide +kernel)
  exact ⟨fresh, hload, hcheck, past_law hload _⟩

end Report

end ListingGrid
