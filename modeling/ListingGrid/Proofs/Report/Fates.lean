import ListingGrid.Proofs.Report.Runs

/-!
# Fates of lines

What becomes of the lines of a pass can be told without laying them out: the
filters and the marks decide, and each line that is stored marks its section for
the lines behind it.
-/

set_option autoImplicit false

namespace ListingGrid

namespace LineFate

def section? : LineFate → Option Nat
  | .stored index _ => some index
  | _ => none

def isSkipped : LineFate → Bool
  | .skipped _ => true
  | _ => false

def isStored (fate : LineFate) : Bool := fate.section?.isSome

def mark (fate : LineFate) (sections : List Section) : List Section :=
  match fate with
  | .stored index _ => sections.modify index Section.markProcessed
  | _ => sections

end LineFate

namespace Section

/-- Sections of which those at some indices are marked. -/
def marked (taken : List Nat) (sections : List Section) : List Section :=
  sections.mapIdx fun i s => if i ∈ taken then s.markProcessed else s

theorem marked_nil (sections : List Section) : marked [] sections = sections := by
  apply List.ext_getElem?
  intro i
  simp [marked]

theorem marked_concat (taken : List Nat) (index : Nat) (sections : List Section) :
    marked (taken ++ [index]) sections =
      (marked taken sections).modify index markProcessed := by
  apply List.ext_getElem?
  intro i
  rw [List.getElem?_modify, marked, marked, List.getElem?_mapIdx, List.getElem?_mapIdx]
  by_cases hi : index = i
  · subst hi
    cases sections[index]? with
    | none => rfl
    | some s => by_cases ht : index ∈ taken <;> simp [ht, markProcessed]
  · have hm : i ∈ taken ++ [index] ↔ i ∈ taken := by
      simp [Ne.symm hi]
    cases sections[i]? with
    | none => rfl
    | some s => simp [hi, hm]

theorem marked_alike (taken : List Nat) {sections : List Section} {i : Nat} {s : Section}
    (h : sections[i]? = some s) :
    ∃ t, (marked taken sections)[i]? = some t ∧ t.Alike s ∧
      t.processed = (s.processed || decide (i ∈ taken)) := by
  refine ⟨if i ∈ taken then s.markProcessed else s, ?_, ?_, ?_⟩
  · simp [marked, h]
  · by_cases ht : i ∈ taken <;> simp [ht, Alike, markProcessed, resetProcessed]
  · by_cases ht : i ∈ taken <;> simp [ht, markProcessed]

theorem marked_length (taken : List Nat) (sections : List Section) :
    (marked taken sections).length = sections.length := by
  simp [marked]

theorem of_marked {taken : List Nat} {sections : List Section} {i : Nat} {t : Section}
    (h : (marked taken sections)[i]? = some t) :
    ∃ s, sections[i]? = some s ∧ t.Alike s ∧
      t.processed = (s.processed || decide (i ∈ taken)) := by
  have hi : i < sections.length := by
    rw [← marked_length taken]
    exact (List.getElem?_eq_some_iff.mp h).1
  obtain ⟨u, hu, halike⟩ := marked_alike taken (List.getElem?_eq_getElem hi)
  obtain rfl := Option.some.inj (h.symm.trans hu)
  exact ⟨_, List.getElem?_eq_getElem hi, halike⟩

theorem marked_marked (a b : List Nat) (sections : List Section) :
    marked b (marked a sections) = marked (a ++ b) sections := by
  induction b using List.reverseRecOn with
  | nil => rw [marked_nil, List.append_nil]
  | append_singleton b index ih => rw [marked_concat, ih, ← List.append_assoc, marked_concat]

theorem marked_reset (taken : List Nat) (sections : List Section) :
    (marked taken sections).map resetProcessed = sections.map resetProcessed := by
  apply List.ext_getElem?
  intro i
  rw [List.getElem?_map, List.getElem?_map]
  cases hs : sections[i]? with
  | none => simp [marked, hs]
  | some s =>
    obtain ⟨t, ht, halike, -⟩ := marked_alike taken hs
    rw [ht]
    exact congrArg some halike

end Section

namespace Report

variable (report : Report)

/-- What becomes of lines where all that are stored can be laid out. -/
def fates : List Section → List String → List LineFate
  | _, [] => []
  | sections, line :: more =>
    report.fate sections line :: fates ((report.fate sections line).mark sections) more

/-- The sections that lines are stored in, once for each line. -/
def taken (sections : List Section) (lines : List String) : List Nat :=
  (report.fates sections lines).filterMap LineFate.section?

def after (sections : List Section) (lines : List String) : List Section :=
  Section.marked (report.taken sections lines) sections

theorem fates_append (sections : List Section) (a b : List String) :
    report.fates sections (a ++ b) =
      report.fates sections a ++ report.fates
        ((report.fates sections a).foldl (fun sections fate => fate.mark sections) sections) b := by
  induction a generalizing sections with
  | nil => rfl
  | cons line more ih => simp [fates, ih]

theorem mark_taken (fates : List LineFate) (sections : List Section) :
    fates.foldl (fun sections fate => fate.mark sections) sections =
      Section.marked (fates.filterMap LineFate.section?) sections := by
  induction fates using List.reverseRecOn with
  | nil => simp [Section.marked_nil]
  | append_singleton fates fate ih =>
    rw [List.foldl_concat, ih, List.filterMap_append]
    cases fate with
    | stored index position => exact (Section.marked_concat _ index sections).symm
    | _ => simp [LineFate.mark, List.filterMap_cons, LineFate.section?]

theorem fates_concat (sections : List Section) (lines : List String) (line : String) :
    report.fates sections (lines ++ [line]) =
      report.fates sections lines ++ [report.fate (report.after sections lines) line] := by
  rw [fates_append, mark_taken]
  rfl

theorem fates_length (sections : List Section) (lines : List String) :
    (report.fates sections lines).length = lines.length := by
  induction lines generalizing sections with
  | nil => rfl
  | cons line more ih => simp [fates, ih]

theorem after_concat (sections : List Section) (lines : List String) (line : String) :
    report.after sections (lines ++ [line]) =
      (report.fate (report.after sections lines) line).mark (report.after sections lines) := by
  rw [after, taken, ← mark_taken, fates_concat, List.foldl_concat, mark_taken]
  rfl

theorem fates_take (sections : List Section) (lines : List String) (k : Nat) :
    (report.fates sections lines).take k = report.fates sections (lines.take k) := by
  induction lines generalizing sections k with
  | nil => simp [fates]
  | cons line more ih =>
    cases k with
    | zero => rfl
    | succ k => simp [fates, ih]

theorem fates_getElem {sections : List Section} {lines : List String} {k : Nat} {line : String}
    (h : lines[k]? = some line) :
    (report.fates sections lines)[k]? =
      some (report.fate (report.after sections (lines.take k)) line) := by
  obtain ⟨hk, hline⟩ := List.getElem?_eq_some_iff.mp h
  have hsplit : lines = (lines.take k ++ [line]) ++ lines.drop (k + 1) := by
    rw [← hline, List.take_append_getElem hk, List.take_append_drop]
  have hlen : (report.fates sections (lines.take k)).length = k := by
    rw [fates_length, List.length_take]
    omega
  conv_lhs => rw [hsplit, fates_append, fates_concat]
  rw [List.append_assoc, List.getElem?_append_right (by omega), hlen, Nat.sub_self]
  rfl

def storedLine? (line : String) (fate : LineFate) : Option StoredLine :=
  match fate with
  | .stored index position =>
    match report.sections[index]? with
    | some s => s.body[position]?.map fun fieldset => ⟨line, index, position, s, fieldset⟩
    | none => none
  | _ => none

/-- The lines that are stored, given what becomes of them. -/
def storedFrom (lines : List String) (fates : List LineFate) : List StoredLine :=
  (lines.zip fates).filterMap fun (line, fate) => report.storedLine? line fate

/-- The lines that are stored where all of them can be laid out. -/
def storedLines (lines : List String) : List StoredLine :=
  report.storedFrom lines (report.fates report.sections lines)

theorem sound_marked {a b : Report} (h : a.Sound) (hroutes : b.routes = a.routes)
    {taken : List Nat} (hsections : b.sections = Section.marked taken a.sections) : b.Sound := by
  refine ⟨fun s hs => ?_, fun route hroute => ?_⟩
  · obtain ⟨i, hi⟩ := List.mem_iff_getElem?.mp hs
    rw [hsections] at hi
    obtain ⟨t, ht, halike, -⟩ := Section.of_marked hi
    exact halike.sound (h.sections t (List.mem_of_getElem? ht))
  · rw [hroutes] at hroute
    obtain ⟨s, hs, hp⟩ := h.routes route hroute
    obtain ⟨t, ht, halike, -⟩ := Section.marked_alike taken hs
    refine ⟨t, ?_, by rwa [halike.body]⟩
    rw [hsections]
    exact ht

/-- What becomes of a line, told from the filters, the marks before the pass and the
sections that earlier lines were stored in. -/
inductive Fated (before : List Nat) (line : String) : LineFate → Prop where
  | excluded (hx : ∃ filter ∈ report.excludeFilters, filter.isMatch line = true) :
      Fated before line .excluded
  | unmatched (hx : ∀ filter ∈ report.excludeFilters, filter.isMatch line = false)
      (hr : ∀ route ∈ report.routes, route.filter.isMatch line = false) :
      Fated before line .unmatched
  | skipped {route : Route} {s : Section}
      (hx : ∀ filter ∈ report.excludeFilters, filter.isMatch line = false)
      (hr : report.routes.find? (·.filter.isMatch line) = some route)
      (hs : report.sections[route.sectionIndex]? = some s)
      (ho : s.once = true ∧ (s.processed = true ∨ route.sectionIndex ∈ before)) :
      Fated before line (.skipped route.sectionIndex)
  | stored {route : Route} {s : Section}
      (hx : ∀ filter ∈ report.excludeFilters, filter.isMatch line = false)
      (hr : report.routes.find? (·.filter.isMatch line) = some route)
      (hs : report.sections[route.sectionIndex]? = some s)
      (ho : ¬(s.once = true ∧ (s.processed = true ∨ route.sectionIndex ∈ before))) :
      Fated before line (.stored route.sectionIndex route.fieldset)

variable {report}

theorem fate_fated (h : report.Sound) (before : List Nat) (line : String) :
    report.Fated before line (report.fate (Section.marked before report.sections) line) := by
  unfold fate
  by_cases hx : report.excludeFilters.any (·.isMatch line) = true
  · rw [if_pos hx]
    exact .excluded (List.any_eq_true.mp hx)
  · rw [if_neg hx]
    have hx' : ∀ filter ∈ report.excludeFilters, filter.isMatch line = false := by
      simpa using hx
    cases hr : report.routes.find? (·.filter.isMatch line) with
    | none => exact .unmatched hx' (by simpa using hr)
    | some route =>
      obtain ⟨s, hs, -⟩ := h.routes route (List.mem_of_find?_eq_some hr)
      obtain ⟨t, ht, halike, hp⟩ := Section.marked_alike before hs
      have hexhausted : t.isExhausted = true ↔
          s.once = true ∧ (s.processed = true ∨ route.sectionIndex ∈ before) := by
        simp [Section.isExhausted, halike.once, hp]
      simp only [ht]
      by_cases he : t.isExhausted = true
      · rw [if_pos he]
        exact .skipped hx' hr hs (hexhausted.mp he)
      · rw [if_neg he]
        exact .stored hx' hr hs (fun hn => he (hexhausted.mpr hn))

/-- A stored line has a section and a body fieldset in it. -/
theorem storedLine_of_fate (h : report.Sound) {before : List Nat} {line : String}
    {index position : Nat}
    (hf : report.fate (Section.marked before report.sections) line = .stored index position) :
    ∃ x, report.storedLine? line (.stored index position) = some x ∧ x.text = line ∧
      x.sectionIndex = index ∧ x.position = position ∧
      report.sections[index]? = some x.source ∧ x.source.body[position]? = some x.fieldset := by
  have hfated := fate_fated h before line
  rw [hf] at hfated
  cases hfated with
  | @stored route s hx hr hs ho =>
    obtain ⟨t, ht, hp⟩ := h.routes route (List.mem_of_find?_eq_some hr)
    obtain rfl := Option.some.inj (hs.symm.trans ht)
    refine ⟨⟨line, route.sectionIndex, route.fieldset, s, s.body[route.fieldset]⟩, ?_, rfl, rfl,
      rfl, hs, List.getElem?_eq_getElem hp⟩
    simp [storedLine?, hs, hp]

theorem storedLine_spec {line : String} {fate : LineFate} {x : StoredLine}
    (h : report.storedLine? line fate = some x) :
    fate = .stored x.sectionIndex x.position ∧ x.text = line ∧
      report.sections[x.sectionIndex]? = some x.source ∧
      x.source.body[x.position]? = some x.fieldset := by
  unfold storedLine? at h
  split at h
  · next index position =>
    split at h
    · next s hs =>
      obtain ⟨fieldset, hf, rfl⟩ := Option.map_eq_some_iff.mp h
      exact ⟨rfl, rfl, hs, hf⟩
    · simp at h
  · simp at h

theorem mem_storedLines {lines : List String} {x : StoredLine}
    (h : x ∈ report.storedLines lines) :
    report.sections[x.sectionIndex]? = some x.source ∧
      x.source.body[x.position]? = some x.fieldset := by
  obtain ⟨⟨line, fate⟩, -, hx⟩ := List.mem_filterMap.mp h
  exact (storedLine_spec hx).2.2

/-- A stored line fits in the sections of its report, whatever the marks are. -/
theorem fitsIn_marked (h : report.Sound) (before : List Nat) {x : StoredLine}
    (hs : report.sections[x.sectionIndex]? = some x.source)
    (hf : x.source.body[x.position]? = some x.fieldset) :
    x.FitsIn (Section.marked before report.sections) := by
  obtain ⟨t, ht, halike, -⟩ := Section.marked_alike before hs
  exact ⟨⟨t, ht, halike⟩, hf, h.sections x.source (List.mem_of_getElem? hs)⟩

variable (report)

theorem storedLines_concat (lines : List String) (line : String) :
    report.storedLines (lines ++ [line]) =
      report.storedLines lines ++
        (report.storedLine? line
          (report.fate (report.after report.sections lines) line)).toList := by
  rw [storedLines, fates_concat, storedFrom, List.zip_append (report.fates_length _ lines).symm,
    List.filterMap_append, ← storedFrom, ← storedLines]
  cases hx : report.storedLine? line (report.fate (report.after report.sections lines) line) with
  | none => simp [hx]
  | some x => simp [hx]

/-- The sections that lines are stored in are those of the stored lines. -/
theorem taken_storedLines (h : report.Sound) (lines : List String) :
    report.taken report.sections lines = (report.storedLines lines).map (·.sectionIndex) := by
  induction lines using List.reverseRecOn with
  | nil => rfl
  | append_singleton lines line ih =>
    rw [taken, fates_concat, List.filterMap_append, ← taken, ih, storedLines_concat,
      List.map_append, List.append_cancel_left_eq]
    cases hf : report.fate (report.after report.sections lines) line with
    | stored index position =>
      obtain ⟨x, hx, -, hi, -⟩ := storedLine_of_fate h hf
      simp [hx, hi, LineFate.section?]
    | _ => simp [storedLine?, List.filterMap_cons, LineFate.section?]

theorem after_storedLines (h : report.Sound) (lines : List String) :
    report.after report.sections lines =
      Section.marked ((report.storedLines lines).map (·.sectionIndex)) report.sections := by
  rw [after, taken_storedLines report h]

theorem storedLines_prefix (a b : List String) :
    report.storedLines a <+: report.storedLines (a ++ b) := by
  rw [storedLines, storedLines, fates_append, storedFrom, storedFrom,
    List.zip_append (report.fates_length _ a).symm, List.filterMap_append]
  exact List.prefix_append ..

variable {report}

/-- What the fates of lines have to do with the filters and with each other. -/
theorem fates_fated (h : report.Sound) {lines : List String} {k : Nat} {line : String}
    {fate : LineFate} (hline : lines[k]? = some line)
    (hfate : (report.fates report.sections lines)[k]? = some fate) :
    report.Fated (((report.fates report.sections lines).take k).filterMap LineFate.section?)
      line fate := by
  rw [fates_getElem report hline] at hfate
  rw [← Option.some.inj hfate, fates_take]
  exact fate_fated h _ line

theorem fates_counts (fates : List LineFate) :
    fates.length = fates.count .excluded + fates.count .unmatched +
      fates.countP LineFate.isSkipped + fates.countP LineFate.isStored := by
  induction fates with
  | nil => rfl
  | cons fate more ih =>
    rw [List.length_cons, List.count_cons, List.count_cons, List.countP_cons, List.countP_cons, ih]
    cases fate <;> simp [LineFate.isSkipped, LineFate.isStored, LineFate.section?] <;> omega

/-- Every line whose fate is to be stored is a stored line. -/
theorem storedLines_length (h : report.Sound) (lines : List String) :
    (report.storedLines lines).length =
      (report.fates report.sections lines).countP LineFate.isStored := by
  induction lines using List.reverseRecOn with
  | nil => rfl
  | append_singleton lines line ih =>
    rw [storedLines_concat, fates_concat, List.length_append, List.countP_append, ih]
    cases hfate : report.fate (report.after report.sections lines) line with
    | stored index position =>
      obtain ⟨x, hx, -⟩ := storedLine_of_fate h hfate
      simp [hx, LineFate.isStored, LineFate.section?]
    | _ => simp [storedLine?, LineFate.isStored, LineFate.section?]

end Report

end ListingGrid
