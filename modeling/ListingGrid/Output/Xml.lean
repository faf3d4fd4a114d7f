import ListingGrid.Output.Markup

/-!
# Tree of groups, rows and cells
-/

set_option autoImplicit false

namespace ListingGrid.Xml

def cellElement (cell : Cell) : Markup :=
  let attributes := [("name", cell.name), ("address", cell.address)]
  let text := cell.value.display
  if text.isEmpty then .single "cell" attributes else .leaf "cell" attributes text

def rowElement (row : Row) : Markup :=
  .node "row" [("kind", row.role.keyword)] (row.cells.map cellElement)

def groupElement (group : CellGroup) : Markup :=
  .node "group"
    [("index", Text.naturalText group.index), ("section", Text.naturalText group.sectionIndex),
      ("start_row", Text.naturalText (sheetRow group.startRow))]
    (group.rows.toList.map rowElement)

def reportElement (report : Report) : Markup :=
  .node "report" [("title", report.title)]
    ((report.description.toList.map fun d => .leaf "description" [] d) ++
      report.groups.toList.map groupElement)

def render (report : Report) : List Char :=
  Markup.document "<?xml version=\"1.0\" encoding=\"UTF-8\"?>" (reportElement report)

end ListingGrid.Xml
