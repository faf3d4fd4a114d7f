import ListingGrid.Log.Event
import ListingGrid.Report.Pass
import ListingGrid.Sheet.Workbook

/-!
# What reports have to tell

The events of reading a definition, of a pass and of building a sheet, in the
order in which they happen.
-/

set_option autoImplicit false

namespace ListingGrid

namespace Definition

def readEvent (d : Definition) : LogEvent :=
  .plain .debug .definition "parsed report definition"
    [("title", .shown d.title), ("sections", .count d.sections.length),
      ("styles", .count d.styles.length), ("fields", .count d.fieldCount)]

def repeatedStyleEvent (id : String) : LogEvent :=
  .plain .warn .report "style defined more than once, keeping the last one" [("style", .shown id)]

end Definition

namespace Report

def undefinedStyleEvent (id : String) (field : Field) : LogEvent :=
  .plain .warn .report "field refers to an undefined style"
    [("style", .text id), ("field", .shown field.text)]

def loadedEvent (report : Report) : LogEvent :=
  .plain .debug .report "report loaded"
    [("title", .shown report.title), ("sections", .count report.sections.length),
      ("routes", .count report.routes.length), ("encoding", .shown report.encoding.label)]

def loadEvents (text : String) : List LogEvent :=
  match Grammar.readDefinition text with
  | .error _ => []
  | .ok d =>
    d.readEvent :: (repeatedStyles d.styles []).map Definition.repeatedStyleEvent ++
      match ofDefinition d with
      | .error _ => []
      | .ok report =>
        (report.undefinedStyles.map fun (id, field) => undefinedStyleEvent id field) ++
          [report.loadedEvent]

def noteEvent (report : Report) : PassNote → LogEvent
  | .routed line sectionIndex fieldset =>
    .plain .trace .report "line routed"
      [("line", .count line), ("section", .count sectionIndex), ("fieldset", .count fieldset)]
  | .skipped line sectionIndex =>
    .plain .trace .report "section exhausted, line skipped"
      [("line", .count line), ("section", .count sectionIndex)]
  | .opening group sectionIndex startRow =>
    .plain .debug .layout "opening cell group"
      [("group", .count group), ("section", .count sectionIndex), ("start_row", .count startRow)]
  | .closing group sectionIndex rows =>
    .plain .debug .layout "closing cell group"
      [("group", .count group), ("section", .count sectionIndex), ("rows", .count rows)]
  | .malformed =>
    .plain .warn .listing "listing contains malformed byte sequences, replaced with U+FFFD"
      [("encoding", .shown report.encoding.label)]
  | .aborted line cause =>
    .plain .warn .report "pass aborted" [("line", .count line), ("error", .shown cause.message)]
  | .processed s =>
    .plain .info .report "listing processed"
      [("lines", .count s.lines), ("excluded", .count s.excluded),
        ("unmatched", .count s.unmatched), ("skipped", .count s.skipped),
        ("groups", .count s.groups), ("rows", .count s.rows)]

end Report

namespace Workbook

def colorEvents (id : String) (color : Option Color) : List LogEvent :=
  match color with
  | some color =>
    if color.rgb?.isSome then []
    else [.plain .warn .sheet "ignoring malformed color"
      [("style", .text id), ("color", .shown color.text)]]
  | none => []

def styleEvents (s : Style) : List LogEvent :=
  colorEvents s.id s.borderColor ++ colorEvents s.id s.background ++ colorEvents s.id s.fontColor

def cellEvents (report : Report) (cell : Cell) : List LogEvent :=
  match cell.styleId with
  | some id =>
    if (report.style? id).isSome then []
    else [.plain .warn .sheet "undefined style, writing unformatted"
      [("style", .text id), ("cell", .shown cell.address)]]
  | none => []

def writeEvents (report : Report) (sheet : Sheet) : List Cell → List LogEvent
  | [] =>
    [.plain .debug .sheet "worksheet built"
      [("cells", .count (gridCells report).length), ("styles", .count report.styles.length)]]
  | cell :: more =>
    cellEvents report cell ++
      match writeCell .standard report sheet cell with
      | .ok sheet => writeEvents report sheet more
      | .error _ => []

def buildEvents (report : Report) (options : RenderOptions) : List LogEvent :=
  report.styles.flatMap styleEvents ++
    match (namedSheet .standard options.sheetName).bind
        (setWidths .standard · 0 report.columnWidths) with
    | .ok sheet => writeEvents report sheet (gridCells report)
    | .error _ => []

end Workbook

end ListingGrid
