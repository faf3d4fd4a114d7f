import ListingGrid.Proofs.Outcomes
import ListingGrid.Report.Basic

/-!
# What the checks of a definition build

Sections are built one after the other, and routes are added on the way. So the sections
are those of the parts of a definition, and the routes those of all include filters in
their order.
-/

set_option autoImplicit false

namespace ListingGrid.Report

/-- A fieldset at its place among those of its role. Only body fieldsets have
filters, and they come before the fields. -/
def buildFieldset (sectionIndex : Nat) (role : Role) (position : Nat) (d : FieldsetDefinition) :
    Except ReportError Fieldset := do
  match role with
  | .body =>
    let filters ← d.includeFilters.mapM compileFilter
    let fields ← buildFields sectionIndex role position 0 d.fields
    return ⟨role, fields, filters, d.newRow, d.keepInRow⟩
  | .header | .footer =>
    return Fieldset.special role (← buildFields sectionIndex role position 0 d.fields)

def buildFieldsets (sectionIndex : Nat) (role : Role) :
    Nat → List FieldsetDefinition → Except ReportError (List Fieldset)
  | _, [] => .ok []
  | position, d :: more => do
    let fieldset ← buildFieldset sectionIndex role position d
    return fieldset :: (← buildFieldsets sectionIndex role (position + 1) more)

def buildSection (index : Nat) (d : SectionDefinition) : Except ReportError Section := do
  let header ← buildFieldsets index .header 0 d.header
  let body ← buildFieldsets index .body 0 d.body
  let footer ← buildFieldsets index .footer 0 d.footer
  return ⟨d.once, d.blankRow, header, body, footer, false⟩

def buildSections : Nat → List SectionDefinition → Except ReportError (List Section)
  | _, [] => .ok []
  | index, d :: more => do
    let s ← buildSection index d
    return s :: (← buildSections (index + 1) more)

def fieldsetRoutes (sectionIndex : Nat) : Nat → List Fieldset → List Route
  | _, [] => []
  | position, fieldset :: more =>
    fieldset.includeFilters.map (fun filter => ⟨filter, sectionIndex, position⟩) ++
      fieldsetRoutes sectionIndex (position + 1) more

def routesFrom : Nat → List Section → List Route
  | _, [] => []
  | index, s :: more => fieldsetRoutes index 0 s.body ++ routesFrom (index + 1) more

variable {index position : Nat} {role : Role}

theorem buildFieldset_role {d : FieldsetDefinition} {fieldset : Fieldset}
    (h : buildFieldset index role position d = .ok fieldset) : fieldset.role = role := by
  cases role with
  | body =>
    obtain ⟨filters, -, hr⟩ := bind_eq_ok.mp h
    obtain ⟨fields, -, hr⟩ := bind_eq_ok.mp hr
    exact Except.ok.inj hr ▸ rfl
  | header | footer =>
    obtain ⟨fields, -, hr⟩ := bind_eq_ok.mp h
    exact Except.ok.inj hr ▸ rfl

theorem buildFieldsets_all {sectionIndex : Nat} {role : Role} {P : FieldsetDefinition → Prop}
    {Q : Fieldset → Prop}
    (hq : ∀ i d fieldset, buildFieldset sectionIndex role i d = .ok fieldset → P d → Q fieldset)
    {position : Nat} {ds : List FieldsetDefinition} {fieldsets : List Fieldset}
    (h : buildFieldsets sectionIndex role position ds = .ok fieldsets) (hp : ∀ d ∈ ds, P d) :
    ∀ fieldset ∈ fieldsets, Q fieldset := by
  induction ds generalizing position fieldsets with
  | nil =>
    simp only [buildFieldsets, Except.ok.injEq] at h
    simp [← h]
  | cons d more ih =>
    obtain ⟨fieldset, hf, hr⟩ := bind_eq_ok.mp h
    obtain ⟨rest, hrest, hr⟩ := bind_eq_ok.mp hr
    rw [← Except.ok.inj hr]
    exact List.forall_mem_cons.mpr ⟨hq _ d fieldset hf (hp d (by simp)),
      ih hrest fun d' hd' => hp d' (by simp [hd'])⟩

theorem buildFieldsets_role {ds : List FieldsetDefinition} {fieldsets : List Fieldset}
    (h : buildFieldsets index role position ds = .ok fieldsets) :
    ∀ fieldset ∈ fieldsets, fieldset.role = role :=
  buildFieldsets_all (P := fun _ => True) (fun _ _ _ hf _ => buildFieldset_role hf) h
    fun _ _ => trivial

theorem foldl_push {fieldsets : List Fieldset} (h : ∀ fieldset ∈ fieldsets, fieldset.role = role)
    (s : Section) :
    fieldsets.foldl Section.push s =
      match role with
      | .header => { s with header := s.header ++ fieldsets }
      | .body => { s with body := s.body ++ fieldsets }
      | .footer => { s with footer := s.footer ++ fieldsets } := by
  induction fieldsets generalizing s with
  | nil => cases role <;> simp
  | cons fieldset more ih =>
    have hrole := h fieldset (by simp)
    rw [List.foldl_cons, ih fun f hf => h f (by simp [hf])]
    cases role <;> simp [Section.push, hrole]

theorem foldlM_addSpecial (hrole : role ≠ .body) (ds : List FieldsetDefinition) (s : Section) :
    (ds.zipIdx position).foldlM (addSpecial index role) s = do
      let fieldsets ← buildFieldsets index role position ds
      return fieldsets.foldl Section.push s := by
  induction ds generalizing position s with
  | nil => rfl
  | cons d more ih =>
    have hbuild : buildFieldset index role position d = (do
        return Fieldset.special role (← buildFields index role position 0 d.fields)) := by
      cases role with
      | body => exact absurd rfl hrole
      | header | footer => rfl
    simp only [List.zipIdx_cons, List.foldlM_cons, addSpecial, ih, buildFieldsets, hbuild,
      bind_assoc, pure_bind, List.foldl_cons]

theorem foldlM_addBody (ds : List FieldsetDefinition) (s : Section) (routes : List Route) :
    (ds.zipIdx position).foldlM (addBody index) (s, routes) = do
      let fieldsets ← buildFieldsets index .body position ds
      return (fieldsets.foldl Section.push s,
        routes ++ fieldsetRoutes index position fieldsets) := by
  induction ds generalizing position s routes with
  | nil => simp [buildFieldsets, fieldsetRoutes, pure, Except.pure, bind, Except.bind]
  | cons d more ih =>
    simp only [List.zipIdx_cons, List.foldlM_cons, addBody, ih, buildFieldsets, buildFieldset,
      bind_assoc, pure_bind, List.foldl_cons, fieldsetRoutes, List.append_assoc]

theorem addSection_eq (d : SectionDefinition) (sections : List Section) (routes : List Route) :
    addSection (sections, routes) (d, index) = do
      let s ← buildSection index d
      return (sections ++ [s], routes ++ fieldsetRoutes index 0 s.body) := by
  simp only [addSection, foldlM_addSpecial (by decide : Role.header ≠ .body),
    foldlM_addSpecial (by decide : Role.footer ≠ .body), foldlM_addBody, buildSection, bind_assoc,
    pure_bind]
  refine bind_congr_ok fun header hheader => bind_congr_ok fun body hbody =>
    bind_congr_ok fun footer hfooter => ?_
  simp only [foldl_push (buildFieldsets_role hheader), foldl_push (buildFieldsets_role hbody),
    foldl_push (buildFieldsets_role hfooter), Section.bare, List.nil_append]

theorem foldlM_addSection (ds : List SectionDefinition) (sections : List Section)
    (routes : List Route) :
    (ds.zipIdx index).foldlM addSection (sections, routes) = do
      let more ← buildSections index ds
      return (sections ++ more, routes ++ routesFrom index more) := by
  induction ds generalizing index sections routes with
  | nil => simp [buildSections, routesFrom, pure, Except.pure, bind, Except.bind]
  | cons d more ih =>
    simp only [List.zipIdx_cons, List.foldlM_cons, addSection_eq, ih, buildSections, bind_assoc,
      pure_bind, routesFrom, List.append_assoc, List.singleton_append]

/-- The routes that are gathered on the way are those of the finished sections. -/
theorem ofDefinition_eq (d : Definition) :
    ofDefinition d = do
      let excludeFilters ← d.excludeFilters.mapM compileFilter
      let sections ← buildSections 0 d.sections
      return {
        title := d.title
        description := d.description
        encoding := d.encoding.getD .utf8
        columnWidths := d.columnWidths
        styles := orderStyles d.styles
        excludeFilters
        routes := routesFrom 0 sections
        sections
        groups := #[]
        rows := 0 } := by
  simp only [ofDefinition, foldlM_addSection, bind_assoc, pure_bind, List.nil_append]

end ListingGrid.Report
