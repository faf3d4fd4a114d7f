import ListingGrid.Output.Render
import ListingGrid.Proofs.Output.Elements

/-!
# Markup reads back as the grid

Whatever texts a report holds, a reader finds in its markup the elements of the grid, no more and
no less: of the texts, none can open or close an element or a value.
-/

set_option autoImplicit false

namespace ListingGrid

namespace Xml

def holdsText (tag : String) : Bool := tag == "description" || tag == "cell"

def cellFound (cell : Cell) : Element :=
  .leaf "cell" [("name", cell.name), ("address", cell.address)] cell.value.display

def rowFound (row : Row) : Element :=
  .node "row" [("kind", row.role.keyword)] (row.cells.map cellFound)

/-- A group with the rows of its section, counted from 1. -/
def groupFound (group : CellGroup) : Element :=
  .node "group"
    [("index", Text.naturalText group.index), ("section", Text.naturalText group.sectionIndex),
      ("start_row", Text.naturalText (group.startRow + 1))]
    (group.rows.toList.map rowFound)

def found (report : Report) : Element :=
  .node "report" [("title", report.title)]
    ((report.description.toList.map fun d => .leaf "description" [] d) ++
      report.groups.toList.map groupFound)

theorem cellElement_reads (cell : Cell) :
    (cellElement cell).ReadsAs holdsText (cellFound cell) := by
  have hnamed : Markup.Tag.isNamed ⟨"cell", [("name", cell.name), ("address", cell.address)]⟩ := by
    show ["cell", "name", "address"].all Markup.isName = true
    decide
  simp only [cellElement, cellFound]
  split
  · next hempty =>
    rw [String.isEmpty_iff.mp hempty]
    exact .emptyLeaf hnamed (by decide)
  · exact .leaf hnamed (by decide) _

theorem rowElement_reads (row : Row) : (rowElement row).ReadsAs holdsText (rowFound row) := by
  refine .node ?_ (by decide) (Markup.ReadsAs.map cellElement_reads _)
  show ["row", "kind"].all Markup.isName = true
  decide

theorem groupElement_reads (group : CellGroup) :
    (groupElement group).ReadsAs holdsText (groupFound group) := by
  refine .node ?_ (by decide) (Markup.ReadsAs.map rowElement_reads _)
  show ["group", "index", "section", "start_row"].all Markup.isName = true
  decide

theorem reportElement_reads (report : Report) :
    (reportElement report).ReadsAs holdsText (found report) := by
  have hdescription : ∀ text, (Markup.leaf "description" [] text).ReadsAs holdsText
      (.leaf "description" [] text) := .leaf (by decide) (by decide)
  refine .node ?_ (by decide) (List.rel_append (Markup.ReadsAs.map hdescription _)
    (Markup.ReadsAs.map groupElement_reads _))
  show ["report", "title"].all Markup.isName = true
  decide

end Xml

namespace Html

def holdsText (tag : String) : Bool := ["title", "h1", "p", "th", "td"].contains tag

def cellFound (role : Role) (cell : Cell) : Element :=
  .leaf (match role with | .header => "th" | _ => "td")
    (cell.styleId.toList.map fun id => ("class", id)) cell.value.display

def rowFound (row : Row) : Element :=
  .node "tr" [("class", row.role.keyword)] (row.cells.map (cellFound row.role))

def groupFound (group : CellGroup) : Element :=
  .node "tbody"
    [("data-section", Text.naturalText group.sectionIndex),
      ("data-start-row", Text.naturalText (group.startRow + 1))]
    (group.rows.toList.map rowFound)

def columnFound (width : Nat) : Element :=
  .node "col" [("style", "width: " ++ Text.naturalText width ++ "ch")] []

def tableFound (report : Report) : Element :=
  .node "table" []
    ((match report.columnWidths with
      | [] => []
      | widths => [.node "colgroup" [] (widths.map columnFound)]) ++
      report.groups.toList.map groupFound)

def found (report : Report) : Element :=
  .node "html" []
    [.node "head" [] [.node "meta" [("charset", "UTF-8")] [], .leaf "title" [] report.title],
      .node "body" []
        (.leaf "h1" [] report.title ::
          (report.description.toList.map fun d => .leaf "p" [] d) ++ [tableFound report])]

theorem cellElement_reads (role : Role) (cell : Cell) :
    (cellElement role cell).ReadsAs holdsText (cellFound role cell) := by
  have hnamed : ∀ tag, Markup.isName tag = true →
      Markup.Tag.isNamed ⟨tag, cell.styleId.toList.map fun id => ("class", id)⟩ = true := by
    have hclass : Markup.isName "class" = true := by decide
    intro tag htag
    cases cell.styleId <;> simp [Markup.Tag.isNamed, htag, hclass]
  cases role with
  | header => exact .leaf (hnamed "th" (by decide)) (by decide) _
  | body => exact .leaf (hnamed "td" (by decide)) (by decide) _
  | footer => exact .leaf (hnamed "td" (by decide)) (by decide) _

theorem rowElement_reads (row : Row) : (rowElement row).ReadsAs holdsText (rowFound row) := by
  refine .node ?_ (by decide) (Markup.ReadsAs.map (cellElement_reads _) _)
  show ["tr", "class"].all Markup.isName = true
  decide

theorem groupElement_reads (group : CellGroup) :
    (groupElement group).ReadsAs holdsText (groupFound group) := by
  refine .node ?_ (by decide) (Markup.ReadsAs.map rowElement_reads _)
  show ["tbody", "data-section", "data-start-row"].all Markup.isName = true
  decide

theorem columnElement_reads (width : Nat) :
    (columnElement width).ReadsAs holdsText (columnFound width) := by
  refine .single ?_ (by decide)
  show ["col", "style"].all Markup.isName = true
  decide

theorem tableElement_reads (report : Report) :
    (tableElement report).ReadsAs holdsText (tableFound report) := by
  refine .node (by decide) (by decide)
    (List.rel_append ?_ (Markup.ReadsAs.map groupElement_reads _))
  cases report.columnWidths with
  | nil => exact .nil
  | cons width more =>
    exact .cons (.node (by decide) (by decide)
      (Markup.ReadsAs.map columnElement_reads (width :: more))) .nil

theorem pageElement_reads (report : Report) :
    (pageElement report).ReadsAs holdsText (found report) := by
  have htext : ∀ tag ∈ ["title", "h1", "p"], ∀ text : String,
      (Markup.leaf tag [] text).ReadsAs holdsText (.leaf tag [] text) := by
    have hnames : ∀ tag ∈ ["title", "h1", "p"],
        Markup.Tag.isNamed ⟨tag, []⟩ = true ∧ holdsText tag = true := by decide
    exact fun tag htag text => .leaf (hnames tag htag).1 (hnames tag htag).2 text
  have hmeta : (Markup.single "meta" [("charset", "UTF-8")]).ReadsAs holdsText
      (.node "meta" [("charset", "UTF-8")] []) := .single (by decide) (by decide)
  have hhead := List.Forall₂.cons hmeta (.cons (htext "title" (by decide) report.title) .nil)
  have hbody := List.Forall₂.cons (htext "h1" (by decide) report.title)
    (List.rel_append (Markup.ReadsAs.map (htext "p" (by decide)) report.description.toList)
      (.cons (tableElement_reads report) .nil))
  exact .node (by decide) (by decide) (.cons (.node (by decide) (by decide) hhead)
    (.cons (.node (by decide) (by decide) hbody) .nil))

end Html

namespace Report

/-- The markup of a report reads back as its grid, and the texts in it leave no delimiters. -/
theorem markup_reads_back (report : Report) (options : RenderOptions) :
    (∃ text, report.renderText .xml options = .ok text ∧
      Markup.read Xml.holdsText text = some (Xml.found report) ∧
      Markup.delimiters text.toList = Markup.delimiters
        (Markup.document "<?xml version=\"1.0\" encoding=\"UTF-8\"?>" (Xml.reportElement report).bare)) ∧
    (∃ text, report.renderText .html options = .ok text ∧
      Markup.read Html.holdsText text = some (Html.found report) ∧
      Markup.delimiters text.toList = Markup.delimiters
        (Markup.document "<!DOCTYPE html>" (Html.pageElement report).bare)) := by
  constructor
  · refine ⟨_, rfl, ?_, ?_⟩
    · exact Markup.read_document '?' "xml version=\"1.0\" encoding=\"UTF-8\"?".toList rfl
        (.inl rfl) (by decide) (Xml.reportElement_reads report) (by decide)
    · rw [String.toList_ofList]
      exact Markup.delimiters_document ..
  · refine ⟨_, rfl, ?_, ?_⟩
    · exact Markup.read_document '!' "DOCTYPE html".toList rfl
        (.inr rfl) (by decide) (Html.pageElement_reads report) (by decide)
    · rw [String.toList_ofList]
      exact Markup.delimiters_document ..

end Report

end ListingGrid
