import ListingGrid.Proofs.Report.History

/-!
# Dispatch of lines

The table of routes lists the include filters of a report with their places, in the order of the
definition. So the first route that matches a line is that of the first include filter that does,
and the section and the fieldset that it names are there, whatever passes have marked.
-/

set_option autoImplicit false

namespace ListingGrid

/-- The body fieldset that a pass looks up, if it is there. -/
def bodyFieldset? (sections : List Section) (index position : Nat) : Option Fieldset :=
  sections[index]?.bind fun s => s.body[position]?

/-- The place of an include filter: its section, its body fieldset and its position there. -/
structure FilterPlace where
  sectionIndex : Nat
  fieldset : Nat
  position : Nat
  deriving DecidableEq, Repr

namespace FilterPlace

def Before (a b : FilterPlace) : Prop :=
  a.sectionIndex < b.sectionIndex ∨ a.sectionIndex = b.sectionIndex ∧
    (a.fieldset < b.fieldset ∨ a.fieldset = b.fieldset ∧ a.position < b.position)

def filter? (place : FilterPlace) (sections : List Section) : Option LineFilter :=
  (bodyFieldset? sections place.sectionIndex place.fieldset).bind fun fieldset =>
    fieldset.includeFilters[place.position]?

theorem Before.irrefl (a : FilterPlace) : ¬a.Before a := by
  unfold Before
  omega

theorem Before.asymm {a b : FilterPlace} (h : a.Before b) : ¬b.Before a := by
  unfold Before at *
  omega

end FilterPlace

def Route.ofPlaced (placed : LineFilter × FilterPlace) : Route :=
  ⟨placed.1, placed.2.sectionIndex, placed.2.fieldset⟩

namespace Report

def placedFilters (sections : List Section) : List (LineFilter × FilterPlace) :=
  sections.zipIdx.flatMap fun (s, i) => s.body.zipIdx.flatMap fun (fieldset, j) =>
    fieldset.includeFilters.zipIdx.map fun (filter, k) => (filter, ⟨i, j, k⟩)

theorem mem_placedFilters {sections : List Section} {filter : LineFilter} {place : FilterPlace} :
    (filter, place) ∈ placedFilters sections ↔ place.filter? sections = some filter := by
  obtain ⟨i, j, k⟩ := place
  simp only [placedFilters, List.mem_flatMap, List.mem_map, Prod.exists, Prod.mk.injEq,
    FilterPlace.mk.injEq, List.mk_mem_zipIdx_iff_getElem?, FilterPlace.filter?,
    bodyFieldset?, Option.bind_eq_some_iff]
  constructor
  · rintro ⟨s, i, hs, fieldset, j, hfieldset, filter, k, hfilter, rfl, rfl, rfl, rfl⟩
    exact ⟨fieldset, ⟨s, hs, hfieldset⟩, hfilter⟩
  · rintro ⟨fieldset, ⟨s, hs, hfieldset⟩, hfilter⟩
    exact ⟨s, i, hs, fieldset, j, hfieldset, filter, k, hfilter, rfl, rfl, rfl, rfl⟩

/-- Members of a list stand in the order of their indices. -/
theorem zipIdx_ordered {α : Type} (l : List α) : l.zipIdx.Pairwise fun a b => a.2 < b.2 := by
  have hindices : (l.zipIdx.map Prod.snd).Pairwise (· < ·) :=
    (List.zipIdx_map_snd 0 l).symm ▸ List.pairwise_lt_range'
  exact List.pairwise_map.mp hindices

theorem placedFilters_ordered (sections : List Section) :
    (placedFilters sections).Pairwise fun a b => a.2.Before b.2 := by
  refine List.pairwise_flatMap.mpr
    ⟨fun s _ => List.pairwise_flatMap.mpr ⟨fun fieldset _ => ?_, ?_⟩, ?_⟩
  · refine List.pairwise_map.mpr ((zipIdx_ordered _).imp fun h => ?_)
    exact .inr ⟨rfl, .inr ⟨rfl, h⟩⟩
  · refine (zipIdx_ordered _).imp fun h x hx y hy => ?_
    obtain ⟨a, -, rfl⟩ := List.mem_map.mp hx
    obtain ⟨b, -, rfl⟩ := List.mem_map.mp hy
    exact .inr ⟨rfl, .inl h⟩
  · refine (zipIdx_ordered _).imp fun h x hx y hy => ?_
    obtain ⟨a, -, hx⟩ := List.mem_flatMap.mp hx
    obtain ⟨b, -, hy⟩ := List.mem_flatMap.mp hy
    obtain ⟨c, -, rfl⟩ := List.mem_map.mp hx
    obtain ⟨d, -, rfl⟩ := List.mem_map.mp hy
    exact .inl h

/-- The routes are the include filters at their places, each of which is forgotten up to the
fieldset. -/
theorem routesFrom_placed (sections : List Section) :
    routesFrom 0 sections = (placedFilters sections).map Route.ofPlaced := by
  have hfilters : ∀ (filters : List LineFilter) (i j : Nat),
      filters.map (fun filter => (⟨filter, i, j⟩ : Route)) =
        (filters.zipIdx.map fun (filter, k) => (filter, (⟨i, j, k⟩ : FilterPlace))).map
          Route.ofPlaced := by
    intro filters i j
    conv_lhs => rw [← List.zipIdx_map_fst 0 filters]
    rw [List.map_map, List.map_map]
    rfl
  simp only [routesFrom_eq, fieldsetRoutes_eq, placedFilters, List.map_flatMap, hfilters]

/-- In an ordered list the first member with a property is the one with which no other one that is
before it has it. -/
theorem find?_placed_eq_some {sections : List Section} {p : LineFilter → Bool}
    {filter : LineFilter} {place : FilterPlace} :
    (placedFilters sections).find? (fun x => p x.1) = some (filter, place) ↔
      place.filter? sections = some filter ∧ p filter = true ∧
        ∀ (earlier : FilterPlace) (other : LineFilter), earlier.Before place →
          earlier.filter? sections = some other → p other = false := by
  rw [List.find?_eq_some_iff_append, ← mem_placedFilters]
  have hordered := placedFilters_ordered sections
  constructor
  · rintro ⟨hp, front, back, hsplit, hfront⟩
    refine ⟨by simp [hsplit], hp, fun earlier other hbefore hother => ?_⟩
    rw [← mem_placedFilters, hsplit, List.mem_append, List.mem_cons] at hother
    rcases hother with hother | hother | hother
    · simpa using hfront _ hother
    · obtain ⟨rfl, rfl⟩ := Prod.mk.inj hother
      exact absurd hbefore (FilterPlace.Before.irrefl _)
    · rw [hsplit, List.pairwise_append, List.pairwise_cons] at hordered
      exact absurd hbefore (hordered.2.1.1 _ hother).asymm
  · rintro ⟨hmem, hp, hnone⟩
    obtain ⟨front, back, hsplit⟩ := List.append_of_mem hmem
    refine ⟨hp, front, back, hsplit, fun x hx => ?_⟩
    rw [hsplit, List.pairwise_append] at hordered
    have hx' : x ∈ placedFilters sections := by simp [hsplit, hx]
    simpa using hnone x.2 x.1 (hordered.2.2 x hx _ List.mem_cons_self) (mem_placedFilters.mp hx')

theorem find?_route (sections : List Section) (line : String) :
    (routesFrom 0 sections).find? (·.filter.isMatch line) =
      ((placedFilters sections).find? fun x => x.1.isMatch line).map Route.ofPlaced := by
  rw [routesFrom_placed, List.find?_map]
  rfl

theorem fieldset_of_route {sections : List Section} {route : Route}
    (h : route ∈ routesFrom 0 sections) : ∃ fieldset,
      bodyFieldset? sections route.sectionIndex route.fieldset = some fieldset ∧
        route.filter ∈ fieldset.includeFilters := by
  rw [routesFrom_placed] at h
  obtain ⟨⟨filter, place⟩, hplaced, rfl⟩ := List.mem_map.mp h
  obtain ⟨fieldset, hfieldset, hfilter⟩ :=
    Option.bind_eq_some_iff.mp (mem_placedFilters.mp hplaced)
  exact ⟨fieldset, hfieldset, List.mem_of_getElem? hfilter⟩

/-- The first route that matches a line is that of the first filter that does. -/
theorem find?_route_eq_some {sections : List Section} {line : String} {route : Route} :
    (routesFrom 0 sections).find? (·.filter.isMatch line) = some route ↔
      ∃ place : FilterPlace, route.sectionIndex = place.sectionIndex ∧
        route.fieldset = place.fieldset ∧ place.filter? sections = some route.filter ∧
        route.filter.isMatch line = true ∧
        ∀ (earlier : FilterPlace) (other : LineFilter), earlier.Before place →
          earlier.filter? sections = some other → other.isMatch line = false := by
  rw [find?_route, Option.map_eq_some_iff]
  constructor
  · rintro ⟨⟨filter, place⟩, hfind, rfl⟩
    obtain ⟨hplace, hmatch, hfirst⟩ :=
      find?_placed_eq_some (p := fun filter => filter.isMatch line) |>.mp hfind
    exact ⟨place, rfl, rfl, hplace, hmatch, hfirst⟩
  · rintro ⟨place, hindex, hfieldset, hplace, hmatch, hfirst⟩
    refine ⟨(route.filter, place), ?_, ?_⟩
    · exact (find?_placed_eq_some (p := fun filter => filter.isMatch line)).mpr
        ⟨hplace, hmatch, hfirst⟩
    · rw [Route.ofPlaced, ← hindex, ← hfieldset]

theorem exists_route_iff {sections : List Section} {line : String} :
    (∃ route, (routesFrom 0 sections).find? (·.filter.isMatch line) = some route) ↔
      ∃ (place : FilterPlace) (filter : LineFilter),
        place.filter? sections = some filter ∧ filter.isMatch line = true := by
  rw [← Option.isSome_iff_exists, find?_route, Option.isSome_map, List.find?_isSome]
  constructor
  · rintro ⟨⟨filter, place⟩, hplaced, hmatch⟩
    exact ⟨place, filter, mem_placedFilters.mp hplaced, hmatch⟩
  · rintro ⟨place, filter, hplace, hmatch⟩
    exact ⟨(filter, place), mem_placedFilters.mpr hplace, hmatch⟩

end Report

namespace PassState

variable {st : PassState}

theorem closeGroup_sections (line : String) (followed : Bool) :
    (st.closeGroup line followed).1.sections = st.sections := by
  unfold closeGroup
  simp only
  split <;> rfl

theorem enterSection_sections (index : Nat) (s : Section) (line : String) :
    (st.enterSection index s line).1.sections = st.sections := by
  have hclose := st.closeGroup_sections line true
  unfold enterSection
  split
  · rfl
  · split
    · next h => rwa [h] at hclose
    · next h =>
      rw [h] at hclose
      exact hclose

theorem modify_bodies (sections : List Section) (index : Nat) :
    (sections.modify index Section.markProcessed).map (·.body) = sections.map (·.body) := by
  refine List.ext_getElem? fun i => ?_
  rw [List.getElem?_map, List.getElem?_map, List.getElem?_modify]
  split
  · cases sections[i]? <;> rfl
  · cases sections[i]? <;> rfl

theorem storeLine_bodies (index position : Nat) (line : String) :
    (st.storeLine index position line).1.sections.map (·.body) = st.sections.map (·.body) := by
  unfold storeLine
  split
  · rfl
  · next s hs =>
    split
    · rfl
    · next fieldset hf =>
      have henter := st.enterSection_sections index s line
      split
      · next h =>
        rw [h] at henter
        exact congrArg _ henter
      · next entered h =>
        rw [h] at henter
        split
        · next h => rw [← congrArg Prod.fst h]; exact congrArg _ henter
        · next h =>
          obtain rfl := congrArg Prod.fst h
          exact (modify_bodies ..).trans (congrArg _ henter)

theorem readLine_bodies (report : Report) (st : PassState) (line : String) :
    (readLine report st line).1.sections.map (·.body) = st.sections.map (·.body) := by
  unfold readLine
  simp only
  split
  · rfl
  · rfl
  · rfl
  · exact storeLine_bodies ..

theorem readItems_bodies (report : Report) (st : PassState) (items : List Item) :
    (readItems report st items).1.sections.map (·.body) = st.sections.map (·.body) := by
  induction items generalizing st with
  | nil => rfl
  | cons item more ih =>
    cases item with
    | malformed => exact ih _
    | line text =>
      have hread := readLine_bodies report st text
      rw [readItems]
      split
      · next h => rwa [h] at hread
      · next h =>
        rw [h] at hread
        exact (ih _).trans hread

end PassState

namespace Report

variable {report : Report}

theorem run_bodies (reading : Reading) (path : Option Path) :
    (report.run reading path).report.sections.map (·.body) = report.sections.map (·.body) ∧
      (report.run reading path).report.routes = report.routes := by
  have hconclude : ∀ (st : PassState) (fault : Option ReportError),
      (report.conclude st path fault).report.sections = st.sections ∧
        (report.conclude st path fault).report.routes = report.routes := fun st fault => by
    cases fault <;> exact ⟨rfl, rfl⟩
  have hitems := PassState.readItems_bodies report (.start report.sections) reading.items
  unfold run
  split
  · next h =>
    rw [h] at hitems
    exact ⟨(congrArg _ (hconclude ..).1).trans hitems, (hconclude ..).2⟩
  · next st h =>
    rw [h] at hitems
    split
    · exact ⟨(congrArg _ (hconclude ..).1).trans hitems, (hconclude ..).2⟩
    · have hclose := st.closeGroup_sections st.lastLine false
      exact ⟨(congrArg _ ((hconclude ..).1.trans hclose)).trans hitems, (hconclude ..).2⟩

theorem applyAll_bodies (events : List ReportEvent) :
    (report.applyAll events).sections.map (·.body) = report.sections.map (·.body) ∧
      (report.applyAll events).routes = report.routes := by
  induction events generalizing report with
  | nil => exact ⟨rfl, rfl⟩
  | cons event more ih =>
    have hevent : (report.apply event).sections.map (·.body) = report.sections.map (·.body) ∧
        (report.apply event).routes = report.routes := by
      cases event with
      | pass reading path => exact run_bodies reading path
      | reset => exact ⟨by simp [apply, resetProcessed, Section.resetProcessed], rfl⟩
    exact ⟨ih.1.trans hevent.1, ih.2.trans hevent.2⟩

theorem bodyFieldset?_congr {sections other : List Section}
    (h : sections.map (·.body) = other.map (·.body)) (index position : Nat) :
    bodyFieldset? sections index position = bodyFieldset? other index position := by
  have hbody : ∀ l : List Section,
      bodyFieldset? l index position = (l.map (·.body))[index]?.bind (·[position]?) := fun l => by
    rw [bodyFieldset?, List.getElem?_map, Option.bind_map]
    rfl
  rw [hbody, hbody, h]

/-- The sections of a report after events and the first items of one more pass. -/
def sectionsDuring (report : Report) (events : List ReportEvent) (items : List Item) :
    List Section :=
  (PassState.readItems (report.applyAll events)
    (PassState.start (report.applyAll events).sections) items).1.sections

theorem sectionsDuring_bodies (events : List ReportEvent) (items : List Item) :
    (report.sectionsDuring events items).map (·.body) = report.sections.map (·.body) :=
  (PassState.readItems_bodies ..).trans (applyAll_bodies events).1

theorem ofDefinition_routes {d : Definition} (h : ofDefinition d = .ok report) :
    report.routes = routesFrom 0 report.sections := by
  rw [ofDefinition_eq] at h
  obtain ⟨filters, -, hr⟩ := bind_eq_ok.mp h
  obtain ⟨sections, -, hr⟩ := bind_eq_ok.mp hr
  rw [← Except.ok.inj hr]

/-- Every route leads to the body fieldset that its filter was given to. The first route that
matches a line is that of the first include filter that does, and whatever has been read so far,
what it leads to is there. -/
theorem ofDefinition_dispatch {d : Definition} (h : ofDefinition d = .ok report) :
    (∀ route ∈ report.routes, ∃ fieldset,
      bodyFieldset? report.sections route.sectionIndex route.fieldset = some fieldset ∧
        route.filter ∈ fieldset.includeFilters) ∧
    (∀ line route, report.routes.find? (·.filter.isMatch line) = some route ↔
      ∃ place : FilterPlace, route.sectionIndex = place.sectionIndex ∧
        route.fieldset = place.fieldset ∧ place.filter? report.sections = some route.filter ∧
        route.filter.isMatch line = true ∧
        ∀ (earlier : FilterPlace) (other : LineFilter), earlier.Before place →
          earlier.filter? report.sections = some other → other.isMatch line = false) ∧
    (∀ line, (∃ route, report.routes.find? (·.filter.isMatch line) = some route) ↔
      ∃ (place : FilterPlace) (filter : LineFilter),
        place.filter? report.sections = some filter ∧ filter.isMatch line = true) ∧
    ∀ events items, (report.applyAll events).routes = report.routes ∧
      ∀ route ∈ report.routes, ∃ fieldset,
        bodyFieldset? (report.sectionsDuring events items) route.sectionIndex route.fieldset =
          some fieldset ∧ route.filter ∈ fieldset.includeFilters := by
  have hroutes := ofDefinition_routes h
  have hlead : ∀ route ∈ report.routes, ∃ fieldset,
      bodyFieldset? report.sections route.sectionIndex route.fieldset = some fieldset ∧
        route.filter ∈ fieldset.includeFilters :=
    fun route hroute => fieldset_of_route (hroutes ▸ hroute)
  refine ⟨hlead, fun line route => ?_, fun line => ?_, fun events items => ⟨?_, ?_⟩⟩
  · rw [hroutes]
    exact find?_route_eq_some
  · rw [hroutes]
    exact exists_route_iff
  · exact (applyAll_bodies events).2
  · intro route hroute
    rw [bodyFieldset?_congr (sectionsDuring_bodies events items)]
    exact hlead route hroute

def overlappingText : String :=
  "title T\nsection header fieldset const \"h\" body fieldset include_filters \"B\" fixed 0 1 " ++
    "fieldset include_filters \"X\", \"AB\" fixed 0 2\n" ++
    "section body fieldset include_filters \"A\" fixed 0 1\n"

/-- A line goes to the first section whose filters match it, whatever passes before it did. -/
theorem ofDefinition_dispatch_overlapping : ∃ d report, ofDefinition d = .ok report ∧
    ∃ route, report.routes.find? (·.filter.isMatch "AB") = some route ∧
      route.filter.pattern = "AB" ∧ route.sectionIndex = 0 ∧ route.fieldset = 1 ∧
      ∀ events items, (bodyFieldset? (report.sectionsDuring events items) 0 1).isSome = true := by
  obtain ⟨d, -, hloads⟩ := exists_of_reads overlappingText
    (append_eq_ofList (append_eq_ofList rfl rfl) rfl)
    (loads · fun report => (report.routes.find? (·.filter.isMatch "AB")).any fun route =>
      route.filter.pattern = "AB" && route.sectionIndex = 0 && route.fieldset = 1)
    (by decide +kernel)
  obtain ⟨report, hload, hcheck⟩ := ok_of_any hloads
  obtain ⟨route, hfind, hroute⟩ := (Option.any_eq_true ..).mp hcheck
  simp only [Bool.and_eq_true, decide_eq_true_eq] at hroute
  obtain ⟨-, -, -, hduring⟩ := ofDefinition_dispatch hload
  refine ⟨d, report, hload, route, hfind, hroute.1.1, hroute.1.2, hroute.2,
    fun events items => ?_⟩
  obtain ⟨fieldset, hfieldset, -⟩ :=
    (hduring events items).2 route (List.mem_of_find?_eq_some hfind)
  rw [hroute.1.2, hroute.2] at hfieldset
  rw [hfieldset]
  rfl

end Report

end ListingGrid
