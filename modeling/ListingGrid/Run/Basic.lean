import ListingGrid.Log.Report
import ListingGrid.Output.FileName
import ListingGrid.Output.Render
import ListingGrid.Report.Pass

/-!
# Runs

A run loads a definition once and passes every listing through the report, one
after the other; each listing that can be read is rendered to a file of its
own. A listing that fails does not stop the others. The report is the same for
all listings, so what is taken only once is taken once in the whole run.
-/

set_option autoImplicit false

namespace ListingGrid

structure RunOptions where
  naming : OutputNaming
  render : RenderOptions
  deriving DecidableEq, Repr

inductive ListingError where
  | pass (listing : Path) (cause : ReportError)
  | workbook (cause : WorkbookError)
  | create (path : Path) (cause : FileError)
  | write (path : Path) (cause : FileError)
  deriving DecidableEq, Repr

namespace ListingError

def chain : ListingError → List String
  | .pass listing cause => ("process " ++ listing.text) :: cause.chain
  | .workbook cause => cause.chain
  | .create path cause => ["create " ++ path.text, cause.message]
  | .write path cause => ["write " ++ path.text, cause.message]

def text (e : ListingError) : String := ": ".intercalate e.chain

end ListingError

structure ListingOutput where
  path : Path
  summary : PassSummary
  deriving DecidableEq, Repr

structure ListingResult where
  listing : Path
  outcome : Except ListingError ListingOutput

namespace ListingResult

def isOk (result : ListingResult) : Bool :=
  match result.outcome with
  | .ok _ => true
  | .error _ => false

def summary? (result : ListingResult) : Option PassSummary :=
  match result.outcome with
  | .ok output => some output.summary
  | .error _ => none

def output? (result : ListingResult) : Option Path :=
  match result.outcome with
  | .ok output => some output.path
  | .error _ => none

def error? (result : ListingResult) : Option ListingError :=
  match result.outcome with
  | .ok _ => none
  | .error e => some e

end ListingResult

/-- The report and the files between two listings, and what was told so far. -/
structure RunState where
  report : Report
  store : Store
  events : Array LogEvent

/-- The moments at which the turns of listings begin. -/
abbrev Clock : Type := Nat → TimeStamp

def Clock.behind (clock : Clock) (turns : Nat) : Clock := fun k => clock (turns + k)

namespace RunState

def tell (st : RunState) (events : List LogEvent) : RunState :=
  { st with events := st.events ++ events }

def writeOutput (st : RunState) (options : RunOptions) (path : Path) :
    Except ListingError RunState := do
  match st.report.contents options.naming.format options.render with
  | .error cause => throw (.workbook cause)
  | .ok contents =>
    match st.store.write path contents with
    | .ok store => return { st with store }
    | .error cause =>
      match contents with
      | .workbook _ => throw (.write path cause)
      | .bytes _ => throw (.create path cause)

def renderEvents (st : RunState) (options : RunOptions) (path : Path) : List LogEvent :=
  .plain .debug .output "rendering report"
      [("path", .shown path.text), ("format", .shown options.naming.format.extension)] ::
    match options.naming.format with
    | .xlsx => Workbook.buildEvents st.report options.render
    | _ => []

def fail (st : RunState) (listing : Path) (e : ListingError) : RunState × ListingResult :=
  (st.tell [.plain .error .run e.text [("input", .shown listing.text)]], ⟨listing, .error e⟩)

/-- Passes a listing through the report and writes its output. The output is named
at the beginning of the listing's turn. -/
def processListing (st : RunState) (options : RunOptions) (now : TimeStamp) (listing : Path) :
    RunState × ListingResult :=
  let path := options.naming.path listing now
  let pass := st.report.processFile st.store listing
  let st := { st with report := pass.report }.tell
    (pass.journal.map fun note => (st.report.noteEvent note).within listing.text)
  match pass.outcome with
  | .error cause => st.fail listing (.pass listing cause)
  | .ok summary =>
    let rendered := st.tell ((st.renderEvents options path).map (·.within listing.text))
    match rendered.writeOutput options path with
    | .error e => rendered.fail listing e
    | .ok written =>
      let event : LogEvent := .plain .info .run "output written"
        [("output", .shown path.text), ("rows", .count summary.rows)]
      (written.tell [event.within listing.text], ⟨listing, .ok ⟨path, summary⟩⟩)

def processListings (st : RunState) (options : RunOptions) (clock : Clock) :
    List Path → RunState × List ListingResult
  | [] => (st, [])
  | listing :: more =>
    let (st, result) := st.processListing options (clock 0) listing
    let (st, results) := st.processListings options (clock.behind 1) more
    (st, result :: results)

end RunState

inductive RunError where
  | definition (path : Path) (cause : ReportError)
  | outputDirectory (path : Path) (cause : FileError)
  deriving DecidableEq, Repr

namespace RunError

def chain : RunError → List String
  | .definition path cause => ("load report definition " ++ path.text) :: cause.chain
  | .outputDirectory path cause => ["create output directory " ++ path.text, cause.message]

def message (e : RunError) : String := e.chain.headD ""

def text (e : RunError) : String := ": ".intercalate e.chain

end RunError

/-- The end of a run: its results, the files, and what it told. -/
structure RunResult where
  title : String
  listings : List ListingResult
  store : Store
  events : List LogEvent

namespace RunResult

def hasErrors (result : RunResult) : Bool := result.listings.any (!·.isOk)

def failures (result : RunResult) : List ListingResult := result.listings.filter (!·.isOk)

end RunResult

def loadDefinition (store : Store) (path : Path) : Except RunError Report :=
  match Report.ofFile store path with
  | .ok report => .ok report
  | .error cause => .error (.definition path cause)

def loadDefinitionEvents (store : Store) (path : Path) : List LogEvent :=
  match store.readText path with
  | .ok text => Report.loadEvents text
  | .error _ => []

def run (store : Store) (definition : Path) (listings : List Path) (options : RunOptions)
    (clock : Clock) : Except RunError RunResult := do
  let report ← loadDefinition store definition
  match store.makeDirectories options.naming.directory with
  | .error cause => throw (.outputDirectory options.naming.directory cause)
  | .ok store =>
    let (st, results) := RunState.processListings ⟨report, store, #[]⟩ options clock listings
    return ⟨report.title, results, st.store, st.events.toList⟩

end ListingGrid
