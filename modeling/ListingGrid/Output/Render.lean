import ListingGrid.Files.Store
import ListingGrid.Output.Csv
import ListingGrid.Output.Html
import ListingGrid.Output.Json
import ListingGrid.Output.Xml

/-!
# Rendering reports

The grid of a report as a text, and as what a file of it holds.
-/

set_option autoImplicit false

namespace ListingGrid

inductive RenderError where
  | binaryFormat
  | invalidText
  deriving DecidableEq, Repr

def RenderError.message : RenderError → String
  | .binaryFormat => "xlsx is a binary format; use render or build_workbook"
  | .invalidText => "renderer produced invalid UTF-8"

namespace Report

def renderText (report : Report) (format : OutputFormat) (options : RenderOptions) :
    Except RenderError String :=
  match format with
  | .xlsx => .error .binaryFormat
  | .csv =>
    if Csv.isText options.delimiter report then
      .ok (String.ofList (Csv.render options.delimiter report))
    else .error .invalidText
  | .json => .ok (String.ofList (Json.render options.pretty report))
  | .xml => .ok (String.ofList (Xml.render report))
  | .html => .ok (String.ofList (Html.render report))

def contents (report : Report) (format : OutputFormat) (options : RenderOptions) :
    Except WorkbookError Contents :=
  match format with
  | .xlsx => (Workbook.ofReport report options).map .workbook
  | .csv => .ok (.bytes (Csv.renderBytes options.delimiter report))
  | .json => .ok (.ofText (String.ofList (Json.render options.pretty report)))
  | .xml => .ok (.ofText (String.ofList (Xml.render report)))
  | .html => .ok (.ofText (String.ofList (Html.render report)))

end Report

end ListingGrid
