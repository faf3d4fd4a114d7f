import ListingGrid.Command.Arguments
import ListingGrid.Command.Table
import ListingGrid.Run.Basic

/-!
# What the command prints

Lines, and tables of what a definition says and of what came of a run.
-/

set_option autoImplicit false

namespace ListingGrid.Command

inductive Printed where
  | line (text : String)
  | table (table : Table)
  deriving DecidableEq, Repr

namespace Printed

def lines : Printed → List String
  | .line text => [text]
  | .table shown => shown.lines

def ofText (text : String) : List Printed := (linesOf text).map .line

end Printed

def sectionLabel (index : Nat) (s : Section) : String :=
  Text.naturalText index ++ (if s.once then " once" else "") ++
    (if s.blankRow then " blank_row" else "")

def fieldsetLabel (position : Nat) (fieldset : Fieldset) : String :=
  Text.naturalText position ++ (if fieldset.newRow then " new_row" else "") ++
    (if fieldset.keepInRow then " keep_in_row" else "")

def filtersLabel (fieldset : Fieldset) : String :=
  if fieldset.includeFilters.isEmpty then "-"
  else ", ".intercalate (fieldset.includeFilters.map (·.text))

def fieldsetRow (index : Nat) (s : Section) (position : Nat) (fieldset : Fieldset) : List String :=
  [sectionLabel index s, fieldset.role.keyword, fieldsetLabel position fieldset,
    filtersLabel fieldset, "\n".intercalate (fieldset.fields.map (·.text))]

def sectionRows (index : Nat) (s : Section) : List (List String) :=
  Role.all.flatMap fun role =>
    (s.fieldsets role).zipIdx.map fun (fieldset, position) => fieldsetRow index s position fieldset

def reportColumns : List Column :=
  ["Section", "Role", "Fieldset", "Filters", "Fields"].map fun heading => ⟨heading, .any, false⟩

def printReport (report : Report) : List Printed :=
  Printed.ofText ("Title: " ++ report.title) ++
    (report.description.toList.flatMap fun text => Printed.ofText ("Description: " ++ text)) ++
    [.line ("Encoding: " ++ report.encoding.label)] ++
    (if report.columnWidths.isEmpty then []
      else [.line ("Column widths: " ++
        " ".intercalate (report.columnWidths.map Text.naturalText))]) ++
    (report.excludeFilters.flatMap fun filter => Printed.ofText ("Exclude: " ++ filter.text)) ++
    (report.styles.flatMap fun style => Printed.ofText style.text) ++
    [.table ⟨reportColumns, report.sections.zipIdx.flatMap fun (s, index) => sectionRows index s⟩]

def resultRow (result : ListingResult) : List String :=
  match result.outcome with
  | .error _ => [result.listing.text, "FAILED", "-", "-", "-", "-", "-"]
  | .ok output =>
    [result.listing.text, output.path.text] ++
      [output.summary.lines, output.summary.excluded, output.summary.unmatched,
        output.summary.groups, output.summary.rows].map Text.naturalText

def totalRow (results : List ListingResult) : List String :=
  let total (counter : PassSummary → Nat) : Nat :=
    (results.filterMap (·.summary?)).foldl (fun n summary => n + counter summary) 0
  ["TOTAL", "-", Text.naturalText (total (·.lines)), "-", "-", "-",
    Text.naturalText (total (·.rows))]

def runColumns : List Column :=
  [⟨"Listing", .atMost 30, false⟩, ⟨"Output", .atMost 40, false⟩, ⟨"Lines", .atLeast 7, true⟩,
    ⟨"Excluded", .atLeast 10, true⟩, ⟨"Unmatched", .atLeast 11, true⟩,
    ⟨"Groups", .atLeast 8, true⟩, ⟨"Rows", .atLeast 6, true⟩]

def printRun (arguments : ProcessArguments) (result : RunResult) : List Printed :=
  Printed.ofText ("Report: " ++ result.title ++ " (" ++ arguments.definition.text ++ ")") ++
    Printed.ofText ("Output: " ++ arguments.outputDirectory.text ++ " [" ++
      arguments.format.extension ++ "]") ++
    [.table ⟨runColumns, result.listings.map resultRow ++ [totalRow result.listings]⟩]

def failureText (result : RunResult) : String :=
  if result.hasErrors then
    "Errors:\n" ++ String.join (result.listings.filterMap fun l =>
      l.error?.map fun e => "- " ++ l.listing.text ++ ": " ++ e.text ++ "\n")
  else ""

def indent (text : String) : String :=
  "\n".intercalate ((Text.lines text.toList).map fun line => "    " ++ String.ofList line)

def printFormula (formula : String) : List Printed :=
  match Grammar.readFormula formula with
  | .ok normalized => Printed.ofText (formula ++ " => " ++ normalized)
  | .error e =>
    Printed.ofText (formula ++ " => error: " ++ e.message) ++ Printed.ofText (indent e.pointer)

end ListingGrid.Command
