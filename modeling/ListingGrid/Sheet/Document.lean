import ListingGrid.Encoding
import ListingGrid.Output.Markup
import ListingGrid.Sheet.Formula
import ListingGrid.Sheet.Workbook

/-!
# Workbooks as documents

All that a workbook holds, as one markup document: its formats with the
attributes in which they differ from the plain one, its columns with their
stored widths, and its cells, which name their formats by position. Texts and
formulas stand there as they are stored.
-/

set_option autoImplicit false

namespace ListingGrid.Workbook

def formats (book : Workbook Sheet) : List (List (String × FormatFact)) :=
  (book.sheet.cells.map (·.format.facts)).eraseDups

/-- The width of a column as it is stored, and whether the column is hidden:
columns of width 0 are. -/
def storedWidth (width : Nat) : String × Bool :=
  if width = 0 then ("0", true) else (Text.naturalText width ++ ".7109375", false)

def factElement (name : String) : FormatFact → Markup
  | .flag => .single name []
  | .text text => .leaf name [] text
  | .line line color =>
    .single name (("line", line) :: color.toList.map fun text => ("color", text))

def columnElement (column width : Nat) : Markup :=
  let (stored, isHidden) := storedWidth width
  .single "column" ([("name", columnName column), ("width", stored)] ++
    if isHidden then [("hidden", "true")] else [])

def cellElement (book : Workbook Sheet) (cell : SheetCell) : Markup :=
  let attributes (kind : String) : List (String × String) :=
    [("address", cell.address), ("kind", kind),
      ("format", Text.naturalText (book.formats.idxOf cell.format.facts))]
  match cell.content with
  | .blank => .single "cell" (attributes "blank")
  | .string text => .leaf "cell" (attributes "string") (SheetContent.stored text)
  | .number value => .leaf "cell" (attributes "number") (String.ofList (value.text Double.plain))
  | .formula text =>
    .leaf "cell" (attributes "formula") (String.ofList (SheetFormula.stored text.toList))

def element (book : Workbook Sheet) : Markup :=
  .node "workbook"
    ([("title", book.title), ("author", book.author)] ++
      (book.comment.toList.map fun text => ("comment", text)) ++ [("sheet", book.sheet.name)])
    ((book.formats.map fun facts =>
        .node "format" [] (facts.map fun (name, fact) => factElement name fact)) ++
      (book.sheet.widths.reverse.map fun (column, width) => columnElement column width) ++
      book.sheet.cells.map book.cellElement)

def documentBytes (book : Workbook Sheet) : List Nat :=
  Text.bytes (String.ofList
    (Markup.document "<?xml version=\"1.0\" encoding=\"UTF-8\"?>" book.element))

end ListingGrid.Workbook
