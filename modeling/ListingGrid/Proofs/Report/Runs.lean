import ListingGrid.Proofs.Report.Drafted
import Mathlib.Data.List.SplitBy

/-!
# Runs of stored lines

The lines that a pass stores make one group for each maximal run of lines of one
section, and in it one body row for each maximal run of lines whose rows were
kept open. A layout shows stored lines when it shows the groups of these runs,
the last one without its foot.
-/

set_option autoImplicit false

namespace ListingGrid

section Concat

variable {α : Type} {r : α → α → Bool} {l : List α} {a : α}

theorem splitBy_concat_new (h : ∀ x ∈ l.getLast?, r x a = false) :
    (l ++ [a]).splitBy r = l.splitBy r ++ [[a]] :=
  List.splitBy_append_cons [] h

theorem getLast?_of_splitBy {before : List (List α)} {last : List α}
    (hl : l.splitBy r = before ++ [last]) : l.getLast? = last.getLast? := by
  have hne : last ≠ [] := List.ne_nil_of_mem_splitBy (r := r) (l := l) (by simp [hl])
  have hflat : l = before.flatten ++ last := by
    rw [← List.flatten_splitBy r l, hl]
    simp
  rw [hflat, List.getLast?_append_of_ne_nil _ hne]

theorem splitBy_concat_same {before : List (List α)} {last : List α}
    (hl : l.splitBy r = before ++ [last]) (h : ∀ x ∈ l.getLast?, r x a = true) :
    (l ++ [a]).splitBy r = before ++ [last ++ [a]] := by
  obtain ⟨hflat, hnil, hchain, hbetween⟩ := List.splitBy_eq_iff.mp hl
  have hlast := getLast?_of_splitBy hl
  have hne : last ≠ [] := fun h => hnil (by simp [h])
  refine List.splitBy_eq_iff.mpr ⟨by simp [hflat], ?_, ?_, ?_⟩
  · intro hm
    rcases List.mem_append.mp hm with hm | hm
    · exact hnil (List.mem_append_left _ hm)
    · simp at hm
  · intro m hm
    rcases List.mem_append.mp hm with hm | hm
    · exact hchain m (List.mem_append_left _ hm)
    · obtain rfl := List.mem_singleton.mp hm
      refine List.isChain_append.mpr ⟨hchain last (by simp), by simp, fun x hx y hy => ?_⟩
      obtain rfl : a = y := by simpa using hy
      exact h x (hlast ▸ hx)
  · obtain ⟨hb, -, hjoin⟩ := List.isChain_append.mp hbetween
    refine List.isChain_append.mpr ⟨hb, by simp, fun x hx y hy => ?_⟩
    obtain rfl : last ++ [a] = y := by simpa using hy
    obtain ⟨hx', hy', hr⟩ := hjoin x hx last (by simp)
    refine ⟨hx', by simp, ?_⟩
    rwa [List.head_append_of_ne_nil hne]

theorem flatMap_splitBy {β : Type} (r : α → α → Bool) (l : List α) (f : α → List β) :
    (l.splitBy r).flatMap (·.flatMap f) = l.flatMap f := by
  conv_rhs => rw [← List.flatten_splitBy r l, ← List.flatMap_id, List.flatMap_assoc]
  rfl

end Concat

/-- A line that a pass stores, with the section and the body fieldset that it
belongs to. -/
structure StoredLine where
  text : String
  sectionIndex : Nat
  position : Nat
  source : Section
  fieldset : Fieldset

namespace StoredLine

def slots (line : StoredLine) : List Slot := line.fieldset.slots line.text

def converts (line : StoredLine) : Bool :=
  (line.fieldset.fields.findSome? fun field => field.fault? line.text).isNone

def sameSection (a b : StoredLine) : Bool := a.sectionIndex == b.sectionIndex

def sameRow (a b : StoredLine) : Bool := a.fieldset.keepInRow && !b.fieldset.newRow

theorem fault_of_converts {line : StoredLine} (h : line.converts = true) :
    ∀ field ∈ line.fieldset.fields, field.fault? line.text = none := by
  simpa [converts] using h

theorem fault_of_not_converts {line : StoredLine} (h : line.converts = false) :
    ∃ before field after cause, line.fieldset.fields = before ++ field :: after ∧
      (∀ f ∈ before, f.fault? line.text = none) ∧ field.fault? line.text = some cause := by
  obtain ⟨cause, hc⟩ := Option.isSome_iff_exists.mp (Option.isNone_eq_false_iff.mp h)
  obtain ⟨before, field, after, hsplit, hf, hb⟩ := List.findSome?_eq_some_iff.mp hc
  exact ⟨before, field, after, cause, hsplit, hb, hf⟩

/-- The row that lines make which continue each other. -/
def row (lines : List StoredLine) : RowDraft :=
  ⟨.body, (lines.getLast?.map (·.position)).getD 0, lines.flatMap (·.slots)⟩

def bodyRows (lines : List StoredLine) : List RowDraft := (lines.splitBy sameRow).map row

def runs (lines : List StoredLine) : List (List StoredLine) := lines.splitBy sameSection

variable {lines : List StoredLine} {line : StoredLine}

theorem bodyRows_role {row : RowDraft} (h : row ∈ bodyRows lines) : row.role = .body := by
  obtain ⟨run, -, rfl⟩ := List.mem_map.mp h
  rfl

theorem bodyRows_begin (h : ∀ x ∈ lines.getLast?, sameRow x line = false) :
    bodyRows (lines ++ [line]) = bodyRows lines ++ [⟨.body, line.position, line.slots⟩] := by
  rw [bodyRows, splitBy_concat_new h]
  simp [bodyRows, row]

theorem bodyRows_continue (hne : lines ≠ []) (h : ∀ x ∈ lines.getLast?, sameRow x line = true) :
    ∃ before last, bodyRows lines = before ++ [last] ∧
      bodyRows (lines ++ [line]) =
        before ++ [⟨.body, line.position, last.slots ++ line.slots⟩] := by
  rcases List.eq_nil_or_concat' (lines.splitBy sameRow) with hl | ⟨before, last, hl⟩
  · exact absurd (List.splitBy_eq_nil.mp hl) hne
  · refine ⟨before.map row, row last, by simp [bodyRows, hl], ?_⟩
    rw [bodyRows, splitBy_concat_same hl h]
    simp [row]

theorem runs_cons {run : List StoredLine} (h : run ∈ runs lines) :
    ∃ first more, run = first :: more :=
  List.exists_cons_of_ne_nil (List.ne_nil_of_mem_splitBy h)

theorem mem_of_runs {run : List StoredLine} (h : run ∈ runs lines) {x : StoredLine}
    (hx : x ∈ run) : x ∈ lines := by
  rw [← List.flatten_splitBy sameSection lines]
  exact List.mem_flatten_of_mem h hx

theorem runs_section {run : List StoredLine} (h : run ∈ runs lines) :
    ∀ x ∈ run.head?, ∀ y ∈ run, x.sectionIndex = y.sectionIndex := by
  have hc : run.IsChain fun x y => x.sectionIndex = y.sectionIndex :=
    (List.isChain_of_mem_splitBy h).imp fun x y hxy => by simpa [sameSection] using hxy
  cases run with
  | nil => simp
  | cons first more =>
    have hp := List.pairwise_cons.mp (List.isChain_iff_pairwise.mp hc)
    intro x hx y hy
    obtain rfl : first = x := by simpa using hx
    rcases List.mem_cons.mp hy with rfl | hy
    · rfl
    · exact hp.1 y hy

end StoredLine

namespace GroupDraft

def ofRun : List StoredLine → GroupDraft
  | [] => ⟨0, Section.bare false false, []⟩
  | first :: more =>
    (opened first.sectionIndex first.source).add (StoredLine.bodyRows (first :: more))

def ofWholeRun (run : List StoredLine) : GroupDraft := (ofRun run).ended

theorem ofRun_of_head {run : List StoredLine} {first : StoredLine} (h : run.head? = some first) :
    ofRun run = (opened first.sectionIndex first.source).add (StoredLine.bodyRows run) := by
  cases run with
  | nil => simp at h
  | cons x more =>
    obtain rfl : x = first := by simpa using h
    rfl

theorem ofRun_singleton (line : StoredLine) :
    ofRun [line] = (opened line.sectionIndex line.source).add
      [⟨.body, line.position, line.slots⟩] := by
  have hsplit : [line].splitBy StoredLine.sameRow = [[line]] := rfl
  simp [ofRun, StoredLine.bodyRows, StoredLine.row, hsplit]

/-- A line that does not continue a row begins one in the group. -/
theorem ofRun_begin {run : List StoredLine} (hne : run ≠ []) (line : StoredLine)
    (h : ∀ x ∈ run.getLast?, StoredLine.sameRow x line = false) :
    ofRun (run ++ [line]) = (ofRun run).add [⟨.body, line.position, line.slots⟩] := by
  obtain ⟨first, more, rfl⟩ := List.exists_cons_of_ne_nil hne
  have hhead : (first :: more ++ [line]).head? = some first := rfl
  rw [ofRun_of_head hhead, StoredLine.bodyRows_begin h, ofRun]
  simp [add]

/-- A line that continues a row leaves the rows before it as they are. -/
theorem ofRun_continue {run : List StoredLine} (hne : run ≠ []) (line : StoredLine)
    (h : ∀ x ∈ run.getLast?, StoredLine.sameRow x line = true) :
    ∃ before last,
      ofRun run = ⟨(ofRun run).sectionIndex, (ofRun run).source, before ++ [last]⟩ ∧
      ofRun (run ++ [line]) = ⟨(ofRun run).sectionIndex, (ofRun run).source,
        before ++ [⟨.body, line.position, last.slots ++ line.slots⟩]⟩ := by
  obtain ⟨before, last, hb, hc⟩ := StoredLine.bodyRows_continue hne h
  obtain ⟨first, more, rfl⟩ := List.exists_cons_of_ne_nil hne
  refine ⟨(opened first.sectionIndex first.source).rows ++ before, last, ?_, ?_⟩
  · rw [ofRun, hb]
    simp [add]
  · have hhead : (first :: more ++ [line]).head? = some first := rfl
    rw [ofRun_of_head hhead, hc, ofRun]
    simp [add]

end GroupDraft

namespace StoredLine

def groups (lines : List StoredLine) : List GroupDraft := (runs lines).map GroupDraft.ofWholeRun

/-- The groups of lines while more lines may follow: the last one has no foot yet. -/
def openGroups (lines : List StoredLine) : List GroupDraft :=
  (runs lines).dropLast.map GroupDraft.ofWholeRun ++
    (runs lines).getLast?.toList.map GroupDraft.ofRun

end StoredLine

/-- What a stored line has to do with the sections of a report: marks apart, its
section is the one at its index, and it is sound. -/
structure StoredLine.FitsIn (line : StoredLine) (sections : List Section) : Prop where
  at_index : ∃ s, sections[line.sectionIndex]? = some s ∧ s.Alike line.source
  at_position : line.source.body[line.position]? = some line.fieldset
  sound : line.source.Sound

theorem StoredLine.FitsIn.filling {line : StoredLine} {sections : List Section}
    (h : line.FitsIn sections) : line.fieldset.Filling :=
  h.sound.body _ (List.mem_of_getElem? h.at_position)

namespace Layout

/-- Whether a layout shows stored lines, in a group that is still being filled. -/
inductive Shows (l : Layout) : List StoredLine → Prop where
  | nothing (hidle : l.Idle []) : Shows l []
  | lines {stored run : List StoredLine} {before : List (List StoredLine)} {last : StoredLine}
      (hruns : StoredLine.runs stored = before ++ [run]) (hlast : stored.getLast? = some last)
      (hdraft : l.Drafted (before.map GroupDraft.ofWholeRun) (GroupDraft.ofRun run))
      (hopen : l.rowOpen = last.fieldset.keepInRow) : Shows l stored

variable {l : Layout} {stored : List StoredLine}

theorem Shows.activeSection (h : l.Shows stored) :
    l.activeSection = stored.getLast?.map (·.sectionIndex) := by
  cases h with
  | nothing hidle => simp [Layout.activeSection, hidle.active]
  | @lines stored run before last hruns hlast hdraft hopen =>
    have hrun : run ∈ StoredLine.runs stored := by simp [hruns]
    obtain ⟨first, more, rfl⟩ := StoredLine.runs_cons hrun
    have hmem : last ∈ first :: more :=
      List.mem_of_getLast? ((getLast?_of_splitBy hruns).symm.trans hlast)
    have hs := StoredLine.runs_section hrun first (by simp) last hmem
    simp [Layout.activeSection, hdraft.active, GroupDraft.place, hlast, ← hs,
      GroupDraft.ofRun, GroupDraft.add, GroupDraft.opened]

theorem Shows.advance (h : l.Shows stored) (line : Nat) : ({ l with line } : Layout).Shows stored := by
  cases h with
  | nothing hidle => exact .nothing ⟨hidle.finished, hidle.active, hidle.row, hidle.rowOpen⟩
  | lines hruns hlast hdraft hopen =>
    exact .lines hruns hlast ⟨hdraft.finished, hdraft.active, hdraft.row, hdraft.open_ne⟩ hopen

theorem Shows.groups (h : l.Shows stored) :
    l.groups.toList = GroupDraft.placeFrom 0 0 (StoredLine.openGroups stored) := by
  cases h with
  | nothing hidle => exact hidle.groups
  | lines hruns hlast hdraft hopen =>
    rw [hdraft.groups]
    simp [StoredLine.openGroups, hruns]

/-- A line of the active section is laid out in its group. -/
theorem Shows.store_same (h : l.Shows stored) {line : StoredLine}
    (ha : l.activeSection = some line.sectionIndex) (hc : line.converts = true)
    (hf : line.fieldset.Filling) :
    ∃ l', l.store .body line.position line.fieldset line.text = ⟨l', none⟩ ∧
      l'.Shows (stored ++ [line]) ∧ l'.line = l.line := by
  rw [h.activeSection] at ha
  cases h with
  | nothing hidle => simp at ha
  | @lines stored run before last hruns hlast hdraft hopen =>
    have hsame : ∀ x ∈ stored.getLast?, StoredLine.sameSection x line = true := by
      intro x hx
      rw [hx] at ha
      simpa [StoredLine.sameSection] using ha
    have hmem : run ∈ StoredLine.runs stored := by simp [hruns]
    have hrun : run ≠ [] := List.ne_nil_of_mem_splitBy hmem
    have hrunlast : run.getLast? = some last := (getLast?_of_splitBy hruns).symm.trans hlast
    have hnext := splitBy_concat_same hruns hsame
    have hconv := StoredLine.fault_of_converts hc
    have hslots := Fieldset.slots_ne hf line.text
    by_cases hrow : StoredLine.sameRow last line = true
    · have ho : l.rowOpen = true ∧ line.fieldset.newRow = false := by
        simpa [StoredLine.sameRow, hopen] using hrow
      obtain ⟨rows, row, hb, hafter⟩ :=
        GroupDraft.ofRun_continue hrun line (by simpa [hrunlast] using hrow)
      rw [hb] at hdraft
      obtain ⟨l', hl', hdraft', hopen', hline⟩ :=
        store_continues hdraft .body line.position ho.1 ho.2 hconv hslots
      refine ⟨l', hl', .lines hnext (List.getLast?_concat ..) ?_ hopen', hline⟩
      rw [hafter]
      exact hdraft'
    · have ho : l.rowOpen = false ∨ line.fieldset.newRow = true := by
        rw [hopen]
        simpa [StoredLine.sameRow, Classical.or_iff_not_imp_left] using hrow
      obtain ⟨l', hl', hdraft', hopen', hline⟩ :=
        store_begins hdraft .body line.position ho hconv hslots
      refine ⟨l', hl', .lines hnext (List.getLast?_concat ..) ?_ hopen', hline⟩
      rw [GroupDraft.ofRun_begin hrun line (by simpa [hrunlast] using hrow)]
      exact hdraft'

/-- Closing the active group finishes the groups of all stored lines. -/
theorem Shows.close (h : l.Shows stored) {sections : List Section} (line : String)
    (hfits : ∀ x ∈ stored, x.FitsIn sections) :
    ∃ l', l.closeGroup sections line true = ⟨l', none⟩ ∧
      l'.Idle (StoredLine.groups stored) ∧ l'.line = l.line := by
  cases h with
  | nothing hidle => exact ⟨l, closeGroup_idle hidle _ _ _, hidle, rfl⟩
  | @lines stored run before last hruns hlast hdraft hopen =>
    have hrun : run ∈ StoredLine.runs stored := by simp [hruns]
    obtain ⟨first, more, rfl⟩ := StoredLine.runs_cons hrun
    have hfirst := hfits first (StoredLine.mem_of_runs hrun (by simp))
    obtain ⟨s, hs, halike⟩ := hfirst.at_index
    obtain ⟨l', hl', hidle, hline⟩ :=
      closeGroup_followed hdraft line hs halike.footer halike.blankRow hfirst.sound.footer
    refine ⟨l', hl', ?_, hline⟩
    simpa [StoredLine.groups, hruns, GroupDraft.ofWholeRun] using hidle

/-- At the end of a listing the last group is finished too, with no row behind it. -/
theorem Shows.finish (h : l.Shows stored) {sections : List Section} (line : String)
    (hfits : ∀ x ∈ stored, x.FitsIn sections) :
    ∃ l', l.closeGroup sections line false = ⟨l', none⟩ ∧
      l'.groups.toList = GroupDraft.placeFrom 0 0 (StoredLine.groups stored) ∧
      l'.row = GroupDraft.extent (StoredLine.groups stored) ∧ l'.line = l.line := by
  cases h with
  | nothing hidle => exact ⟨l, closeGroup_idle hidle _ _ _, hidle.groups, hidle.row, rfl⟩
  | @lines stored run before last hruns hlast hdraft hopen =>
    have hrun : run ∈ StoredLine.runs stored := by simp [hruns]
    obtain ⟨first, more, rfl⟩ := StoredLine.runs_cons hrun
    have hfirst := hfits first (StoredLine.mem_of_runs hrun (by simp))
    obtain ⟨s, hs, halike⟩ := hfirst.at_index
    obtain ⟨l', hl', hfin, hact, -, hline, hrow⟩ :=
      closeGroup_ended hdraft line false hs halike.footer halike.blankRow hfirst.sound.footer
    have hgroups : StoredLine.groups stored =
        before.map GroupDraft.ofWholeRun ++ [(GroupDraft.ofRun (first :: more)).ended] := by
      simp [StoredLine.groups, hruns, GroupDraft.ofWholeRun]
    refine ⟨l', hl', ?_, ?_, hline⟩
    · rw [hgroups, Layout.groups, hact]
      exact hfin
    · rw [hgroups, GroupDraft.extent_concat]
      exact hrow

/-- The first line of a group is laid out behind the head. -/
theorem Shows.store_first {line : StoredLine}
    (h : l.Drafted (StoredLine.groups stored) (GroupDraft.opened line.sectionIndex line.source))
    (hopen : l.rowOpen = false)
    (ha : stored.getLast?.map (·.sectionIndex) ≠ some line.sectionIndex)
    (hc : line.converts = true) (hf : line.fieldset.Filling) :
    ∃ l', l.store .body line.position line.fieldset line.text = ⟨l', none⟩ ∧
      l'.Shows (stored ++ [line]) ∧ l'.line = l.line := by
  have hother : ∀ x ∈ stored.getLast?, StoredLine.sameSection x line = false := by
    intro x hx
    rw [hx] at ha
    simpa [StoredLine.sameSection] using ha
  obtain ⟨l', hl', hdraft, hopen', hline⟩ := store_begins h .body line.position (.inl hopen)
    (StoredLine.fault_of_converts hc) (Fieldset.slots_ne hf line.text)
  rw [← StoredLine.slots, ← GroupDraft.ofRun_singleton] at hdraft
  exact ⟨l', hl', .lines (splitBy_concat_new hother) (List.getLast?_concat ..) hdraft hopen',
    hline⟩

end Layout

end ListingGrid
