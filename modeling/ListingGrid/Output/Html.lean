import ListingGrid.Output.Markup

/-!
# Page with one table

Every group is a table body; the rows of its head have header cells.
-/

set_option autoImplicit false

namespace ListingGrid.Html

def cellElement (role : Role) (cell : Cell) : Markup :=
  .leaf (if role = .header then "th" else "td")
    (cell.styleId.toList.map fun id => ("class", id)) cell.value.display

def rowElement (row : Row) : Markup :=
  .node "tr" [("class", row.role.keyword)] (row.cells.map (cellElement row.role))

def groupElement (group : CellGroup) : Markup :=
  .node "tbody"
    [("data-section", Text.naturalText group.sectionIndex),
      ("data-start-row", Text.naturalText (sheetRow group.startRow))]
    (group.rows.toList.map rowElement)

def columnElement (width : Nat) : Markup :=
  .single "col" [("style", "width: " ++ Text.naturalText width ++ "ch")]

def tableElement (report : Report) : Markup :=
  .node "table" []
    ((if report.columnWidths.isEmpty then []
      else [.node "colgroup" [] (report.columnWidths.map columnElement)]) ++
      report.groups.toList.map groupElement)

def pageElement (report : Report) : Markup :=
  .node "html" []
    [.node "head" [] [.single "meta" [("charset", "UTF-8")], .leaf "title" [] report.title],
      .node "body" []
        ([.leaf "h1" [] report.title] ++
          (report.description.toList.map fun d => .leaf "p" [] d) ++ [tableElement report])]

def render (report : Report) : List Char :=
  Markup.document "<!DOCTYPE html>" (pageElement report)

end ListingGrid.Html
