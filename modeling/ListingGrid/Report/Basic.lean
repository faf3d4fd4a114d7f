import ListingGrid.Grammar.Definition
import ListingGrid.Grid
import ListingGrid.Report.Error

/-!
# Reports

A report is a checked definition together with the grid of its last pass.
Lines are dispatched by a flat table of routes, one for each include filter in
the order of the definition. The first fault of a definition is the one that
is reported: exclude filters come first, then each section with its head, its
body fieldsets (filters before fields) and its foot.
-/

set_option autoImplicit false

namespace ListingGrid

/-- An include filter and the body fieldset that it selects. -/
structure Route where
  filter : LineFilter
  sectionIndex : Nat
  fieldset : Nat

structure Report where
  title : String
  description : Option String
  encoding : Encoding
  columnWidths : List Nat
  styles : List Style
  excludeFilters : List LineFilter
  routes : List Route
  sections : List Section
  groups : Array CellGroup
  rows : Nat

namespace Report

def compileFilter (pattern : String) : Except ReportError LineFilter :=
  match LineFilter.ofPattern pattern with
  | .ok filter => .ok filter
  | .error _ => .error (.filter pattern)

def buildField (index : Nat) (d : FieldDefinition) : Except FieldError Field :=
  match d.spec with
  | .extracted extraction left right =>
    Field.extracted index extraction left right d.name d.styleId
  | .empty count => Field.empty index count d.name d.styleId
  | .const value => .ok ⟨index, .const value, d.name, d.styleId⟩
  | .function formula => .ok ⟨index, .function formula, d.name, d.styleId⟩

def buildFields (sectionIndex : Nat) (role : Role) (fieldset : Nat) :
    Nat → List FieldDefinition → Except ReportError (List Field)
  | _, [] => .ok []
  | index, d :: more =>
    match buildField index d with
    | .error cause => .error (.field sectionIndex role fieldset d.line cause)
    | .ok field => do
      return field :: (← buildFields sectionIndex role fieldset (index + 1) more)

def addSpecial (index : Nat) (role : Role) (s : Section) :
    FieldsetDefinition × Nat → Except ReportError Section
  | (d, position) => do
    let fields ← buildFields index role position 0 d.fields
    return s.push (.special role fields)

/-- Builds a body fieldset into a section; its filters come before its fields, and
become routes. -/
def addBody (index : Nat) :
    Section × List Route → FieldsetDefinition × Nat → Except ReportError (Section × List Route)
  | (s, routes), (d, position) => do
    let filters ← d.includeFilters.mapM compileFilter
    let routes := routes ++ filters.map fun filter => ⟨filter, index, position⟩
    let fields ← buildFields index .body position 0 d.fields
    return (s.push ⟨.body, fields, filters, d.newRow, d.keepInRow⟩, routes)

def addSection :
    List Section × List Route → SectionDefinition × Nat →
      Except ReportError (List Section × List Route)
  | (sections, routes), (d, index) => do
    let s ← d.header.zipIdx.foldlM (addSpecial index .header) (.bare d.once d.blankRow)
    let (s, routes) ← d.body.zipIdx.foldlM (addBody index) (s, routes)
    let s ← d.footer.zipIdx.foldlM (addSpecial index .footer) s
    return (sections ++ [s], routes)

/-- Puts a style at its place in the order of names, instead of one that has
its name. -/
def insertStyle (style : Style) : List Style → List Style
  | [] => [style]
  | other :: more =>
    if style.id < other.id then style :: other :: more
    else if other.id < style.id then other :: insertStyle style more
    else style :: more

def orderStyles (styles : List Style) : List Style :=
  styles.foldl (fun ordered style => insertStyle style ordered) []

def repeatedStyles : List Style → List String → List String
  | [], _ => []
  | style :: more, seen =>
    if seen.contains style.id then style.id :: repeatedStyles more seen
    else repeatedStyles more (style.id :: seen)

def ofDefinition (d : Definition) : Except ReportError Report := do
  let excludeFilters ← d.excludeFilters.mapM compileFilter
  let (sections, routes) ← d.sections.zipIdx.foldlM addSection ([], [])
  return {
    title := d.title
    description := d.description
    encoding := d.encoding.getD .utf8
    columnWidths := d.columnWidths
    styles := orderStyles d.styles
    excludeFilters
    routes
    sections
    groups := #[]
    rows := 0 }

def style? (report : Report) (id : String) : Option Style :=
  report.styles.find? fun style => style.id == id

def undefinedStyles (report : Report) : List (String × Field) :=
  (report.sections.flatMap fun s => s.allFieldsets.flatMap (·.fields)).filterMap fun field =>
    match field.styleId with
    | some id => if (report.style? id).isNone then some (id, field) else none
    | none => none

def resetProcessed (report : Report) : Report :=
  { report with sections := report.sections.map Section.resetProcessed }

def ofText (text : String) : Except ReportError Report :=
  match Grammar.readDefinition text with
  | .error cause => .error (.source cause)
  | .ok d => ofDefinition d

end Report

end ListingGrid
