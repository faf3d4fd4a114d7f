import ListingGrid.Proofs.Grammar.Fieldsets
import ListingGrid.Proofs.Grid.Slot
import ListingGrid.Proofs.Report.Built
import ListingGrid.Report.Pass

/-!
# Loaded reports

What a report has from the text that it was loaded from: every fieldset fills a
cell, heads and feet need no line and neither keep a row open nor break one, and
every route leads to a body fieldset. Passes change only the marks of sections
and the grid.
-/

set_option autoImplicit false

namespace ListingGrid

structure Fieldset.Filling (fieldset : Fieldset) : Prop where
  fields_ne : fieldset.fields ≠ []
  width_pos : ∀ field ∈ fieldset.fields, 0 < field.width

structure Fieldset.IsSpecial (fieldset : Fieldset) : Prop extends Fieldset.Filling fieldset where
  special : ∀ field ∈ fieldset.fields, field.IsSpecial
  newRow : fieldset.newRow = false
  keepInRow : fieldset.keepInRow = false

structure Section.Sound (s : Section) : Prop where
  header : ∀ fieldset ∈ s.header, fieldset.IsSpecial
  body : ∀ fieldset ∈ s.body, fieldset.Filling
  footer : ∀ fieldset ∈ s.footer, fieldset.IsSpecial

def Section.Alike (s t : Section) : Prop := s.resetProcessed = t.resetProcessed

def Route.LeadsInto (route : Route) (sections : List Section) : Prop :=
  ∃ s, sections[route.sectionIndex]? = some s ∧ route.fieldset < s.body.length

structure Report.Sound (report : Report) : Prop where
  sections : ∀ s ∈ report.sections, s.Sound
  routes : ∀ route ∈ report.routes, route.LeadsInto report.sections

namespace Section.Alike

variable {s t : Section}

theorem once (h : s.Alike t) : s.once = t.once := (Section.mk.inj h).1

theorem blankRow (h : s.Alike t) : s.blankRow = t.blankRow := (Section.mk.inj h).2.1

theorem header (h : s.Alike t) : s.header = t.header := (Section.mk.inj h).2.2.1

theorem body (h : s.Alike t) : s.body = t.body := (Section.mk.inj h).2.2.2.1

theorem footer (h : s.Alike t) : s.footer = t.footer := (Section.mk.inj h).2.2.2.2.1

theorem eq_with (h : s.Alike t) : s = { t with processed := s.processed } :=
  (congrArg (fun u : Section => { u with processed := s.processed }) h :)

theorem sound (h : s.Alike t) (ht : t.Sound) : s.Sound :=
  ⟨h.header ▸ ht.header, h.body ▸ ht.body, h.footer ▸ ht.footer⟩

end Section.Alike

namespace Fieldset

def slots (fieldset : Fieldset) (line : String) : List Slot := Slot.ofFields line fieldset.fields

theorem slots_ne {fieldset : Fieldset} (h : fieldset.Filling) (line : String) :
    fieldset.slots line ≠ [] := by
  obtain ⟨field, more, hf⟩ := List.exists_cons_of_ne_nil h.fields_ne
  have hw := h.width_pos field (by simp [hf])
  rw [slots, hf, Slot.ofFields_cons]
  simp only [ne_eq, List.append_eq_nil_iff, List.replicate_eq_nil_iff, not_and]
  omega

theorem special_slots {fieldset : Fieldset} (h : fieldset.IsSpecial) (line other : String) :
    fieldset.slots line = fieldset.slots other :=
  Slot.ofFields_special _ h.special line other

end Fieldset

namespace Report

def cleared (report : Report) : Report :=
  { report with sections := report.sections.map Section.resetProcessed, groups := #[], rows := 0 }

/-- Whether the report was loaded from the text. Its marks, its grid and its row
counter may be any. -/
def IsLoaded (report : Report) (text : String) : Prop := ofText text = .ok report.cleared

theorem buildField_width {index : Nat} {d : FieldDefinition} {field : Field}
    (h : buildField index d = .ok field) : 0 < field.width := by
  unfold buildField at h
  cases hs : d.spec with
  | extracted extraction left right =>
    simp only [hs] at h
    obtain ⟨range, -, hr⟩ := bind_eq_ok.mp h
    simp [← Except.ok.inj hr, Field.width]
  | empty count =>
    simp only [hs, Field.empty] at h
    split at h
    · simp at h
    · next hc =>
      simp only [← Except.ok.inj h, Field.width]
      omega
  | const value =>
    simp only [hs] at h
    simp [← Except.ok.inj h, Field.width]
  | function formula =>
    simp only [hs] at h
    simp [← Except.ok.inj h, Field.width]

theorem buildField_special {index : Nat} {d : FieldDefinition} {field : Field}
    (h : buildField index d = .ok field) (hd : d.spec.IsSpecial) : field.IsSpecial := by
  unfold buildField at h
  cases hs : d.spec with
  | extracted extraction left right => simp [hs, FieldSpec.IsSpecial] at hd
  | empty count =>
    simp only [hs, Field.empty] at h
    split at h
    · simp at h
    · simp [← Except.ok.inj h, Field.IsSpecial]
  | const value =>
    simp only [hs] at h
    simp [← Except.ok.inj h, Field.IsSpecial]
  | function formula =>
    simp only [hs] at h
    simp [← Except.ok.inj h, Field.IsSpecial]

/-- What is true of every field that is built from a definition of some kind is
true of all fields built from such definitions, and there are as many. -/
theorem buildFields_all {sectionIndex fieldset : Nat} {role : Role} {P : FieldSpec → Prop}
    {Q : Field → Prop}
    (hq : ∀ i d field, buildField i d = .ok field → P d.spec → Q field)
    {index : Nat} {ds : List FieldDefinition} {fields : List Field}
    (h : buildFields sectionIndex role fieldset index ds = .ok fields)
    (hp : ∀ d ∈ ds, P d.spec) :
    fields.length = ds.length ∧ ∀ field ∈ fields, Q field := by
  induction ds generalizing index fields with
  | nil =>
    simp only [buildFields, Except.ok.injEq] at h
    simp [← h]
  | cons d more ih =>
    unfold buildFields at h
    split at h
    · simp at h
    · next field hf =>
      obtain ⟨rest, hr, hrest⟩ := bind_eq_ok.mp h
      obtain ⟨hl, ha⟩ := ih hr fun d' hd' => hp d' (by simp [hd'])
      rw [← Except.ok.inj hrest]
      exact ⟨by simp [hl], List.forall_mem_cons.mpr ⟨hq _ d field hf (hp d (by simp)), ha⟩⟩

theorem buildFields_filling {sectionIndex fieldset index : Nat} {role : Role}
    {ds : List FieldDefinition} {fields : List Field}
    (h : buildFields sectionIndex role fieldset index ds = .ok fields) (hne : ds ≠ []) :
    fields ≠ [] ∧ ∀ field ∈ fields, 0 < field.width := by
  obtain ⟨hl, hw⟩ := buildFields_all (P := fun _ => True)
    (fun _ _ _ hf _ => buildField_width hf) h fun _ _ => trivial
  refine ⟨fun hf => hne ?_, hw⟩
  rw [hf] at hl
  exact List.length_eq_zero_iff.mp hl.symm

theorem buildFieldset_special {sectionIndex position : Nat} {role : Role} (hrole : role ≠ .body)
    {d : FieldsetDefinition} {fieldset : Fieldset}
    (h : buildFieldset sectionIndex role position d = .ok fieldset) (hd : d.IsSpecial) :
    fieldset.IsSpecial := by
  have hb : buildFieldset sectionIndex role position d = (do
      return Fieldset.special role (← buildFields sectionIndex role position 0 d.fields)) := by
    cases role with
    | body => exact absurd rfl hrole
    | header => rfl
    | footer => rfl
  rw [hb] at h
  obtain ⟨fields, hf, hr⟩ := bind_eq_ok.mp h
  obtain ⟨hne, hw⟩ := buildFields_filling hf hd.1
  have hs := (buildFields_all (fun _ _ _ => buildField_special) hf hd.2).2
  rw [← Except.ok.inj hr]
  exact ⟨⟨hne, hw⟩, hs, rfl, rfl⟩

theorem buildFieldset_body {sectionIndex position : Nat} {d : FieldsetDefinition}
    {fieldset : Fieldset} (h : buildFieldset sectionIndex .body position d = .ok fieldset)
    (hd : d.fields ≠ []) : fieldset.Filling := by
  obtain ⟨filters, -, hr⟩ := bind_eq_ok.mp h
  obtain ⟨fields, hf, hr⟩ := bind_eq_ok.mp hr
  obtain ⟨hne, hw⟩ := buildFields_filling hf hd
  rw [← Except.ok.inj hr]
  exact ⟨hne, hw⟩

theorem buildSection_sound {index : Nat} {d : SectionDefinition} {s : Section}
    (h : buildSection index d = .ok s) (hd : d.Furnished) : s.Sound ∧ s.processed = false := by
  obtain ⟨header, hh, hr⟩ := bind_eq_ok.mp h
  obtain ⟨body, hb, hr⟩ := bind_eq_ok.mp hr
  obtain ⟨footer, hf, hr⟩ := bind_eq_ok.mp hr
  rw [← Except.ok.inj hr]
  refine ⟨⟨?_, ?_, ?_⟩, rfl⟩
  · exact buildFieldsets_all (fun _ _ _ => buildFieldset_special (by decide)) hh hd.header
  · exact buildFieldsets_all (fun _ _ _ => buildFieldset_body) hb hd.body
  · exact buildFieldsets_all (fun _ _ _ => buildFieldset_special (by decide)) hf hd.footer

theorem buildSections_sound {index : Nat} {ds : List SectionDefinition} {sections : List Section}
    (h : buildSections index ds = .ok sections) (hd : ∀ d ∈ ds, d.Furnished) :
    ∀ s ∈ sections, s.Sound ∧ s.processed = false := by
  induction ds generalizing index sections with
  | nil =>
    simp only [buildSections, Except.ok.injEq] at h
    simp [← h]
  | cons d more ih =>
    obtain ⟨s, hs, hr⟩ := bind_eq_ok.mp h
    obtain ⟨rest, hrest, hr⟩ := bind_eq_ok.mp hr
    rw [← Except.ok.inj hr]
    exact List.forall_mem_cons.mpr ⟨buildSection_sound hs (hd d (by simp)),
      ih hrest fun d' hd' => hd d' (by simp [hd'])⟩

theorem fieldsetRoutes_eq (sectionIndex position : Nat) (fieldsets : List Fieldset) :
    fieldsetRoutes sectionIndex position fieldsets =
      (fieldsets.zipIdx position).flatMap fun (fieldset, j) =>
        fieldset.includeFilters.map fun filter => ⟨filter, sectionIndex, j⟩ := by
  induction fieldsets generalizing position with
  | nil => rfl
  | cons fieldset more ih => rw [fieldsetRoutes, ih, List.zipIdx_cons, List.flatMap_cons]

theorem routesFrom_eq (index : Nat) (sections : List Section) :
    routesFrom index sections =
      (sections.zipIdx index).flatMap fun (s, i) => fieldsetRoutes i 0 s.body := by
  induction sections generalizing index with
  | nil => rfl
  | cons s more ih => rw [routesFrom, ih, List.zipIdx_cons, List.flatMap_cons]

theorem routesFrom_lead {sections : List Section} {route : Route} (h : route ∈ routesFrom 0 sections) :
    ∃ s, sections[route.sectionIndex]? = some s ∧ route.fieldset < s.body.length := by
  simp only [routesFrom_eq, fieldsetRoutes_eq] at h
  obtain ⟨⟨s, i⟩, hs, hroute⟩ := List.mem_flatMap.mp h
  obtain ⟨⟨fieldset, j⟩, hfieldset, hroute⟩ := List.mem_flatMap.mp hroute
  obtain ⟨filter, -, rfl⟩ := List.mem_map.mp hroute
  have hj := List.mk_mem_zipIdx_iff_getElem?.mp hfieldset
  exact ⟨s, List.mk_mem_zipIdx_iff_getElem?.mp hs, (List.getElem?_eq_some_iff.mp hj).1⟩

theorem ofText_built {text : String} {report : Report} (h : ofText text = .ok report) :
    (∀ s ∈ report.sections, s.Sound ∧ s.processed = false) ∧
      report.routes = routesFrom 0 report.sections ∧ report.groups = #[] ∧ report.rows = 0 := by
  unfold ofText at h
  split at h
  · simp at h
  · next d hd =>
    rw [ofDefinition_eq] at h
    obtain ⟨filters, -, hr⟩ := bind_eq_ok.mp h
    obtain ⟨sections, hs, hr⟩ := bind_eq_ok.mp hr
    rw [← Except.ok.inj hr]
    exact ⟨buildSections_sound hs (sections_furnished hd), rfl, rfl, rfl⟩

theorem ofText_sound {text : String} {report : Report} (h : ofText text = .ok report) :
    report.Sound := by
  obtain ⟨hs, hroutes, -, -⟩ := ofText_built h
  exact ⟨fun s hm => (hs s hm).1, fun route hm => routesFrom_lead (hroutes ▸ hm)⟩

/-- A report that was just loaded has neither marks nor a grid. -/
theorem ofText_cleared {text : String} {report : Report} (h : ofText text = .ok report) :
    report.cleared = report := by
  obtain ⟨hs, -, hg, hr⟩ := ofText_built h
  have hm : report.sections.map Section.resetProcessed = report.sections := by
    rw [List.map_congr_left (g := id), List.map_id]
    intro s hmem
    have hp := (hs s hmem).2
    cases s
    simp_all [Section.resetProcessed]
  unfold cleared
  rw [hm, ← hg, ← hr]

theorem ofText_isLoaded {text : String} {report : Report} (h : ofText text = .ok report) :
    report.IsLoaded text :=
  h.trans (by rw [ofText_cleared h])

/-- Marks and grids say nothing about whether a report is sound. -/
theorem sound_of_cleared {report : Report} (h : report.cleared.Sound) : report.Sound := by
  have hs : ∀ s ∈ report.sections, s.Sound := by
    intro s hs
    have halike : s.Alike s.resetProcessed := rfl
    exact halike.sound (h.sections _ (List.mem_map_of_mem hs))
  refine ⟨hs, ?_⟩
  intro route hroute
  obtain ⟨s, hs, hp⟩ := h.routes route hroute
  simp only [cleared, List.getElem?_map, Option.map_eq_some_iff] at hs
  obtain ⟨t, ht, rfl⟩ := hs
  exact ⟨t, ht, hp⟩

theorem loaded_sound {report : Report} {text : String} (h : report.IsLoaded text) : report.Sound :=
  sound_of_cleared (ofText_sound h)

theorem append_eq_ofList {a b : String} {front back : List Char} (ha : a = String.ofList front)
    (hb : b = String.ofList back) : a ++ b = String.ofList (front ++ back) := by
  rw [ha, hb, String.ofList_append]

def loads (d : Definition) (check : Report → Bool) : Bool := (ofDefinition d).toOption.any check

theorem exists_of_read {text : String} {d : Definition} (hread : Grammar.readDefinition text = .ok d)
    (check : Report → Bool) (h : loads d check = true) :
    ∃ report, ofText text = .ok report ∧ check report = true := by
  obtain ⟨report, hreport, hcheck⟩ := ok_of_any h
  refine ⟨report, ?_, hcheck⟩
  simp only [ofText, hread]
  exact hreport

def reads (source : List Char) (check : Definition → Bool) : Bool :=
  (Grammar.readAll .definition (Grammar.Report.whole source) source).toOption.any check

theorem exists_of_reads (text : String) {source : List Char} (htext : text = String.ofList source)
    (check : Definition → Bool) (h : reads source check = true) :
    ∃ d, Grammar.readDefinition text = .ok d ∧ check d = true := by
  obtain ⟨d, hread, hcheck⟩ := ok_of_any h
  exact ⟨d, (Grammar.readDefinition_ofList htext).trans hread, hcheck⟩

/-- Checks a report that is loaded from a text of known characters. -/
theorem exists_of_loads (text : String) {source : List Char} (htext : text = String.ofList source)
    (check : Report → Bool) (h : reads source (loads · check) = true) :
    ∃ report, ofText text = .ok report ∧ check report = true := by
  obtain ⟨d, hread, hload⟩ := exists_of_reads text htext _ h
  exact exists_of_read hread check hload

/-- A section that is taken once with a row left blank behind it, and one with a
head and a foot. -/
def sampleText : String :=
  "title T\nsection process_only_one_time blank_row body fieldset include_filters \"A\" " ++
    "string 0 2\nsection header fieldset const \"h\" body fieldset include_filters \"B\" " ++
    "integer 1 3 footer fieldset function =SUM(A<startrow>:A<rows>)\n"

def sampleDefinition : Definition where
  title := "T"
  description := none
  encoding := none
  columnWidths := []
  excludeFilters := []
  styles := []
  sections := [{
    once := true
    blankRow := true
    header := []
    body := [⟨["A"], false, false, [⟨.extracted .string 0 2, none, none, 2⟩]⟩]
    footer := [] }, {
    once := false
    blankRow := false
    header := [⟨[], false, false, [⟨.const (.text "h"), none, none, 3⟩]⟩]
    body := [⟨["B"], false, false, [⟨.extracted (.numeric .integer) 1 3, none, none, 3⟩]⟩]
    footer := [⟨[], false, false, [⟨.function "=SUM(A<STARTROW>:A<ROWS>)", none, none, 3⟩]⟩] }]

theorem sampleText_reads : Grammar.readDefinition sampleText = .ok sampleDefinition := by
  obtain ⟨d, hread, hcheck⟩ := exists_of_reads sampleText
    (append_eq_ofList (append_eq_ofList rfl rfl) rfl) (· == sampleDefinition) (by decide +kernel)
  exact hread.trans (congrArg Except.ok (beq_iff_eq.mp hcheck))

theorem exists_of_sample (check : Report → Bool) (h : loads sampleDefinition check = true) :
    ∃ report, ofText sampleText = .ok report ∧ check report = true :=
  exists_of_read sampleText_reads check h

end Report

end ListingGrid
