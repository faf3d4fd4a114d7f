import ListingGrid.Proofs.Report.Loaded

/-!
# The first fault of a definition

What is checked of a definition is listed in one order: exclude filters, then section by section
the fields of the head, for each body fieldset its filters and then its fields, and the fields of
the foot. A definition is loaded just if no check finds a fault, and is refused for the first one
that does. A fieldset is named by its place among those of its role.
-/

set_option autoImplicit false

namespace ListingGrid

/-- What is wrong with a field at an index of its fieldset. -/
def FieldSpec.fault? (index : Nat) : FieldSpec → Option FieldError
  | .extracted _ left right =>
    if left < 0 then some (.negativeLeftBound index left)
    else if right < left then some (.invertedRange index left right)
    else none
  | .empty count => if count < 1 then some (.invalidRepeat index count) else none
  | .const _ | .function _ => none

/-- Whether bounds and counts are as they have to be. -/
def FieldSpec.IsValid : FieldSpec → Prop
  | .extracted _ left right => 0 ≤ left ∧ left ≤ right
  | .empty count => 1 ≤ count
  | .const _ | .function _ => True

/-- Something that is checked of a definition, at its place. -/
inductive Check where
  | filter (pattern : String)
  | field (sectionIndex : Nat) (role : Role) (fieldset index : Nat) (d : FieldDefinition)

namespace Check

def fault? : Check → Option ReportError
  | .filter pattern =>
    match LineFilter.ofPattern pattern with
    | .ok _ => none
    | .error _ => some (.filter pattern)
  | .field sectionIndex role fieldset index d =>
    (d.spec.fault? index).map (.field sectionIndex role fieldset d.line)

def ofFields (sectionIndex : Nat) (role : Role) (fieldset index : Nat) (ds : List FieldDefinition) :
    List Check :=
  (ds.zipIdx index).map fun (d, index) => .field sectionIndex role fieldset index d

def ofFieldset (sectionIndex : Nat) (role : Role) (position : Nat) (d : FieldsetDefinition) :
    List Check :=
  (if role = .body then d.includeFilters.map .filter else []) ++
    ofFields sectionIndex role position 0 d.fields

def ofFieldsets (sectionIndex : Nat) (role : Role) (position : Nat)
    (ds : List FieldsetDefinition) : List Check :=
  (ds.zipIdx position).flatMap fun (d, position) => ofFieldset sectionIndex role position d

def ofSection (index : Nat) (d : SectionDefinition) : List Check :=
  ofFieldsets index .header 0 d.header ++ ofFieldsets index .body 0 d.body ++
    ofFieldsets index .footer 0 d.footer

def ofSections (index : Nat) (ds : List SectionDefinition) : List Check :=
  (ds.zipIdx index).flatMap fun (d, index) => ofSection index d

def firstFault? (checks : List Check) : Option ReportError := checks.findSome? fault?

end Check

namespace Definition

def checks (d : Definition) : List Check :=
  d.excludeFilters.map .filter ++ Check.ofSections 0 d.sections

/-- Whether a pattern can be used as a filter, behind what anchors it. -/
def Compiles (pattern : String) : Prop := ∃ filter, LineFilter.ofPattern pattern = .ok filter

/-- Whether the filters of a definition and its bounds and counts are as they have to be. Include
filters that a tree gives to a fieldset of a head or a foot are not looked at. -/
structure IsValid (d : Definition) : Prop where
  excludeFilters : ∀ pattern ∈ d.excludeFilters, Compiles pattern
  includeFilters : ∀ s ∈ d.sections, ∀ fieldset ∈ s.body, ∀ pattern ∈ fieldset.includeFilters,
    Compiles pattern
  fields : ∀ s ∈ d.sections, ∀ fieldset ∈ s.header ++ s.body ++ s.footer,
    ∀ field ∈ fieldset.fields, field.spec.IsValid

end Definition

def FieldsetDefinition.Passes (role : Role) (d : FieldsetDefinition) : Prop :=
  (role = .body → ∀ pattern ∈ d.includeFilters, Definition.Compiles pattern) ∧
    ∀ field ∈ d.fields, field.spec.IsValid

def SectionDefinition.Passes (d : SectionDefinition) : Prop :=
  (∀ fieldset ∈ d.header, fieldset.Passes .header) ∧ (∀ fieldset ∈ d.body, fieldset.Passes .body) ∧
    ∀ fieldset ∈ d.footer, fieldset.Passes .footer

namespace Report

open Check

theorem firstFault?_append (a b : List Check) :
    firstFault? (a ++ b) = (firstFault? a).or (firstFault? b) := List.findSome?_append

theorem firstFault?_cons (check : Check) (more : List Check) :
    firstFault? (check :: more) = check.fault?.or (firstFault? more) := by
  rw [firstFault?, List.findSome?_cons]
  cases check.fault? <;> rfl

theorem errorOf?_compileFilter (pattern : String) :
    errorOf? (compileFilter pattern) = (Check.filter pattern).fault? := by
  simp only [compileFilter, fault?]
  cases LineFilter.ofPattern pattern <;> rfl

theorem errorOf?_filters (patterns : List String) :
    errorOf? (patterns.mapM compileFilter) = firstFault? (patterns.map .filter) := by
  induction patterns with
  | nil => rfl
  | cons pattern more ih =>
    have hrest : ∀ filter, errorOf? (do
        let filters ← more.mapM compileFilter
        return filter :: filters : Except ReportError (List LineFilter)) =
          firstFault? (more.map .filter) := fun filter => by
      rw [errorOf?_last _ fun _ _ => rfl, ih]
    rw [List.mapM_cons, errorOf?_bind _ fun filter _ => hrest filter, errorOf?_compileFilter,
      List.map_cons, firstFault?_cons]

theorem errorOf?_buildField (index : Nat) (d : FieldDefinition) :
    errorOf? (buildField index d) = d.spec.fault? index := by
  unfold buildField
  cases d.spec with
  | extracted extraction left right =>
    simp only [Field.extracted, FieldSpec.fault?, ColumnRange.ofBounds]
    split
    · rfl
    · split <;> rfl
  | empty count =>
    simp only [Field.empty, FieldSpec.fault?]
    split <;> rfl
  | const value => rfl
  | function formula => rfl

theorem errorOf?_fields (sectionIndex : Nat) (role : Role) (fieldset index : Nat)
    (ds : List FieldDefinition) :
    errorOf? (buildFields sectionIndex role fieldset index ds) =
      firstFault? (ofFields sectionIndex role fieldset index ds) := by
  induction ds generalizing index with
  | nil => rfl
  | cons d more ih =>
    rw [ofFields, List.zipIdx_cons, List.map_cons, firstFault?_cons, ← ofFields, ← ih, buildFields,
      fault?, ← errorOf?_buildField]
    cases buildField index d with
    | error cause => rfl
    | ok field =>
      exact errorOf?_last _ fun _ _ => rfl

theorem errorOf?_fieldset (sectionIndex : Nat) (role : Role) (position : Nat)
    (d : FieldsetDefinition) :
    errorOf? (buildFieldset sectionIndex role position d) =
      firstFault? (ofFieldset sectionIndex role position d) := by
  have hfields := errorOf?_fields sectionIndex role position 0 d.fields
  rw [ofFieldset, firstFault?_append, ← hfields]
  cases role with
  | body =>
    rw [if_pos rfl, ← errorOf?_filters]
    refine errorOf?_bind _ fun filters _ => ?_
    rw [errorOf?_last _ fun _ _ => rfl]
  | header => exact errorOf?_last _ fun _ _ => rfl
  | footer => exact errorOf?_last _ fun _ _ => rfl

theorem errorOf?_fieldsets (sectionIndex : Nat) (role : Role) (position : Nat)
    (ds : List FieldsetDefinition) :
    errorOf? (buildFieldsets sectionIndex role position ds) =
      firstFault? (ofFieldsets sectionIndex role position ds) := by
  induction ds generalizing position with
  | nil => rfl
  | cons d more ih =>
    rw [ofFieldsets, List.zipIdx_cons, List.flatMap_cons, firstFault?_append,
      ← errorOf?_fieldset]
    refine errorOf?_bind _ fun fieldset _ => ?_
    rw [errorOf?_last _ fun _ _ => rfl, ih]
    rfl

theorem errorOf?_section (index : Nat) (d : SectionDefinition) :
    errorOf? (buildSection index d) = firstFault? (ofSection index d) := by
  rw [ofSection, List.append_assoc, firstFault?_append, firstFault?_append, ← errorOf?_fieldsets,
    ← errorOf?_fieldsets, ← errorOf?_fieldsets]
  refine errorOf?_bind _ fun header _ => errorOf?_bind _ fun body _ => ?_
  rw [errorOf?_last _ fun _ _ => rfl]

theorem errorOf?_sections (index : Nat) (ds : List SectionDefinition) :
    errorOf? (buildSections index ds) = firstFault? (ofSections index ds) := by
  induction ds generalizing index with
  | nil => rfl
  | cons d more ih =>
    rw [ofSections, List.zipIdx_cons, List.flatMap_cons, firstFault?_append, ← errorOf?_section]
    refine errorOf?_bind _ fun s _ => ?_
    rw [errorOf?_last _ fun _ _ => rfl, ih]
    rfl

theorem errorOf?_ofDefinition (d : Definition) :
    errorOf? (ofDefinition d) = firstFault? d.checks := by
  rw [ofDefinition_eq, Definition.checks, firstFault?_append, ← errorOf?_filters, ← errorOf?_sections]
  refine errorOf?_bind _ fun filters _ => ?_
  rw [errorOf?_last _ fun _ _ => rfl]

theorem fault?_filter_eq_none {pattern : String} :
    (Check.filter pattern).fault? = none ↔ Definition.Compiles pattern := by
  rw [← errorOf?_compileFilter, Definition.Compiles, compileFilter]
  cases LineFilter.ofPattern pattern <;> simp [errorOf?]

theorem fault?_spec_eq_none {index : Nat} {spec : FieldSpec} :
    spec.fault? index = none ↔ spec.IsValid := by
  cases spec with
  | extracted extraction left right =>
    simp only [FieldSpec.fault?, FieldSpec.IsValid]
    split
    · simp; omega
    · split
      · simp; omega
      · simp; omega
  | empty count =>
    simp only [FieldSpec.fault?, FieldSpec.IsValid]
    split
    · simp; omega
    · simp; omega
  | const value => simp [FieldSpec.fault?, FieldSpec.IsValid]
  | function formula => simp [FieldSpec.fault?, FieldSpec.IsValid]

/-- What holds of the members of a list whatever their places are holds of them at their places. -/
theorem forall_mem_zipIdx {α : Type} (P : α → Prop) (l : List α) :
    (∀ x ∈ l.zipIdx, P x.1) ↔ ∀ a ∈ l, P a := by
  constructor
  · intro h a ha
    obtain ⟨x, hx, rfl⟩ := List.mem_map.mp ((List.zipIdx_map_fst 0 l).symm ▸ ha)
    exact h x hx
  · intro h x hx
    exact h x.1 (List.fst_mem_of_mem_zipIdx hx)

theorem ofFieldset_pass (sectionIndex position : Nat) (role : Role) (d : FieldsetDefinition) :
    (∀ check ∈ ofFieldset sectionIndex role position d, check.fault? = none) ↔ d.Passes role := by
  have hfields : (∀ check ∈ ofFields sectionIndex role position 0 d.fields, check.fault? = none) ↔
      ∀ field ∈ d.fields, field.spec.IsValid := by
    rw [ofFields, List.forall_mem_map,
      ← forall_mem_zipIdx fun d : FieldDefinition => d.spec.IsValid]
    refine forall₂_congr fun x _ => ?_
    rw [fault?, Option.map_eq_none_iff, fault?_spec_eq_none]
  rw [ofFieldset, List.forall_mem_append, hfields, FieldsetDefinition.Passes]
  refine and_congr_left fun _ => ?_
  split
  · next hrole => simp [hrole, fault?_filter_eq_none]
  · next hrole => simp [hrole]

theorem ofFieldsets_pass (sectionIndex : Nat) (role : Role) (ds : List FieldsetDefinition) :
    (∀ check ∈ ofFieldsets sectionIndex role 0 ds, check.fault? = none) ↔
      ∀ d ∈ ds, d.Passes role := by
  rw [ofFieldsets, List.forall_mem_flatMap, ← forall_mem_zipIdx (FieldsetDefinition.Passes role)]
  exact forall₂_congr fun x _ => ofFieldset_pass sectionIndex x.2 role x.1

theorem ofSection_pass (index : Nat) (d : SectionDefinition) :
    (∀ check ∈ ofSection index d, check.fault? = none) ↔ d.Passes := by
  rw [ofSection, List.forall_mem_append, List.forall_mem_append, ofFieldsets_pass,
    ofFieldsets_pass, ofFieldsets_pass, and_assoc, SectionDefinition.Passes]

theorem checks_pass (d : Definition) :
    (∀ check ∈ d.checks, check.fault? = none) ↔ d.IsValid := by
  have hsections : (∀ check ∈ ofSections 0 d.sections, check.fault? = none) ↔
      ∀ s ∈ d.sections, s.Passes := by
    rw [ofSections, List.forall_mem_flatMap, ← forall_mem_zipIdx SectionDefinition.Passes]
    exact forall₂_congr fun x _ => ofSection_pass x.2 x.1
  rw [Definition.checks, List.forall_mem_append, List.forall_mem_map, hsections]
  simp only [fault?_filter_eq_none]
  constructor
  · rintro ⟨hexclude, hsections⟩
    refine ⟨hexclude, fun s hs fieldset hf => ((hsections s hs).2.1 fieldset hf).1 rfl,
      fun s hs fieldset hf => ?_⟩
    obtain ⟨hheader, hbody, hfooter⟩ := hsections s hs
    simp only [List.mem_append] at hf
    rcases hf with (hf | hf) | hf
    · exact (hheader fieldset hf).2
    · exact (hbody fieldset hf).2
    · exact (hfooter fieldset hf).2
  · intro h
    refine ⟨h.excludeFilters, fun s hs => ⟨fun fieldset hf => ⟨fun hrole => (nomatch hrole), ?_⟩,
      fun fieldset hf => ⟨fun _ => h.includeFilters s hs fieldset hf, ?_⟩,
      fun fieldset hf => ⟨fun hrole => (nomatch hrole), ?_⟩⟩⟩
    all_goals exact h.fields s hs fieldset (by simp [hf])

/-- A definition is loaded just if it is valid, and is refused for the first check that finds a
fault. -/
theorem ofDefinition_checks (d : Definition) :
    ((∃ report, ofDefinition d = .ok report) ↔ d.IsValid) ∧
      ∀ e, ofDefinition d = .error e ↔
        ∃ before check after, d.checks = before ++ check :: after ∧ check.fault? = some e ∧
          ∀ other ∈ before, other.fault? = none := by
  constructor
  · rw [← errorOf?_eq_none, errorOf?_ofDefinition, firstFault?, List.findSome?_eq_none_iff,
      checks_pass]
  · intro e
    rw [← errorOf?_eq_some, errorOf?_ofDefinition, firstFault?, List.findSome?_eq_some_iff]

def filteredAt (header body : String) : Definition where
  title := "T"
  description := none
  encoding := none
  columnWidths := []
  excludeFilters := []
  styles := []
  sections := [{
    once := false
    blankRow := false
    header := [⟨[header], false, false, [⟨.const (.text "h"), none, none, 2⟩]⟩]
    body := [⟨[body], false, false, [⟨.extracted .string 0 2, none, none, 2⟩]⟩]
    footer := [] }]

/-- A filter of a head is never compiled, and one of a body only behind what anchors it: both
definitions are loaded, though neither text is a pattern. -/
theorem ofDefinition_uncompiled :
    (∃ report, ofDefinition (filteredAt "(" "A") = .ok report) ∧
      (∃ report, ofDefinition (filteredAt "A" "a)|(?:b") = .ok report) ∧
      ¬ Definition.Compiles "(" ∧ Pattern.ofChars "(".toList = .error .unclosedGroup ∧
      Pattern.ofChars "a)|(?:b".toList = .error .unopenedGroup := by
  refine ⟨errorOf?_eq_none.mp rfl, errorOf?_eq_none.mp rfl, fun hcompiles => ?_, rfl, rfl⟩
  have hnone : errorOf? (LineFilter.ofPattern "(") = none := errorOf?_eq_none.mpr hcompiles
  have hsome : errorOf? (LineFilter.ofPattern "(") = some .unclosedGroup := rfl
  exact nomatch hsome.symm.trans hnone

end Report

end ListingGrid
