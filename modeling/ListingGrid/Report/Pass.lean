import ListingGrid.Files.Store
import ListingGrid.Listing.Reader
import ListingGrid.Report.Basic
import ListingGrid.Report.Layout

/-!
# Passes

A pass reads the lines of a listing once, from the first to the last. A line
that an exclude filter matches is dropped; of the others, one that no route
matches is dropped too. The first route that matches says which section and
fieldset the line belongs to. Lines of a section that is taken only once are
skipped when it was taken before. All other lines are stored; a line of
another section than the one before ends a group and begins a new one.

A pass stops at the first value that does not follow its format. What was laid
out up to there stays in the report. A journal tells what happened.
-/

set_option autoImplicit false

namespace ListingGrid

structure PassSummary where
  lines : Nat
  excluded : Nat
  unmatched : Nat
  skipped : Nat
  groups : Nat
  rows : Nat
  deriving DecidableEq, Repr

inductive PassNote where
  | routed (line sectionIndex fieldset : Nat)
  | skipped (line sectionIndex : Nat)
  | opening (group sectionIndex startRow : Nat)
  | closing (group sectionIndex rows : Nat)
  | malformed
  | aborted (line : Nat) (cause : ReportError)
  | processed (summary : PassSummary)
  deriving DecidableEq, Repr

inductive LineFate where
  | excluded
  | unmatched
  | skipped (sectionIndex : Nat)
  | stored (sectionIndex fieldset : Nat)
  deriving DecidableEq, Repr

structure PassState where
  sections : List Section
  layout : Layout
  excluded : Nat
  unmatched : Nat
  skipped : Nat
  lastLine : String
  journal : Array PassNote

namespace Report

def fate (report : Report) (sections : List Section) (line : String) : LineFate :=
  if report.excludeFilters.any (·.isMatch line) then .excluded
  else
    match report.routes.find? (·.filter.isMatch line) with
    | none => .unmatched
    | some route =>
      match sections[route.sectionIndex]? with
      | some s => if s.isExhausted then .skipped route.sectionIndex
        else .stored route.sectionIndex route.fieldset
      | none => .unmatched

end Report

namespace PassState

def start (sections : List Section) : PassState :=
  ⟨sections, Layout.start, 0, 0, 0, "", #[]⟩

def note (st : PassState) (n : PassNote) : PassState := { st with journal := st.journal.push n }

def lay (st : PassState) (laid : Laid) : PassState × Option ReportError :=
  ({ st with layout := laid.layout },
    laid.fault.map fun fault => .mismatch none fault.line fault.field fault.cause)

def closeGroup (st : PassState) (line : String) (followed : Bool) :
    PassState × Option ReportError :=
  let laid := st.layout.closeGroup st.sections line followed
  match st.layout.active, laid.fault with
  | some group, none =>
    let rows := match laid.layout.finished.back? with
      | some group => group.rows.size
      | none => 0
    (st.note (.closing group.index group.sectionIndex rows)).lay laid
  | _, _ => st.lay laid

def openGroup (st : PassState) (index : Nat) (s : Section) (line : String) :
    PassState × Option ReportError :=
  let l := st.layout
  (st.note (.opening l.groupCount index (l.row + s.header.length))).lay (l.openGroup index s line)

/-- Ends the active group and begins one, where the line belongs to another
section than the active group. -/
def enterSection (st : PassState) (index : Nat) (s : Section) (line : String) :
    PassState × Option ReportError :=
  if st.layout.activeSection = some index then (st, none)
  else
    match st.closeGroup line true with
    | (st, some e) => (st, some e)
    | (st, none) => st.openGroup index s line

def storeLine (st : PassState) (index position : Nat) (line : String) :
    PassState × Option ReportError :=
  match st.sections[index]? with
  | none => (st, none)
  | some s =>
    match s.body[position]? with
    | none => (st, none)
    | some fieldset =>
      match st.enterSection index s line with
      | (st, some e) => (st, some e)
      | (st, none) =>
        match st.lay (st.layout.store .body position fieldset line) with
        | (st, some e) => (st, some e)
        | (st, none) =>
          ({ st with sections := st.sections.modify index Section.markProcessed, lastLine := line },
            none)

def readLine (report : Report) (st : PassState) (line : String) : PassState × Option ReportError :=
  let st := { st with layout := { st.layout with line := st.layout.line + 1 } }
  match report.fate st.sections line with
  | .excluded => ({ st with excluded := st.excluded + 1 }, none)
  | .unmatched => ({ st with unmatched := st.unmatched + 1 }, none)
  | .skipped index =>
    ({ st with skipped := st.skipped + 1 }.note (.skipped st.layout.line index), none)
  | .stored index position =>
    (st.note (.routed st.layout.line index position)).storeLine index position line

def readItems (report : Report) (st : PassState) : List Item → PassState × Option ReportError
  | [] => (st, none)
  | .malformed :: more => readItems report (st.note .malformed) more
  | .line text :: more =>
    match readLine report st text with
    | (st, some e) => (st, some e)
    | (st, none) => readItems report st more

def summary (st : PassState) : PassSummary :=
  ⟨st.layout.line, st.excluded, st.unmatched, st.skipped, st.layout.groupCount, st.layout.row⟩

end PassState

structure PassResult where
  report : Report
  outcome : Except ReportError PassSummary
  journal : List PassNote

namespace Report

def conclude (report : Report) (st : PassState) (path : Option Path)
    (fault : Option ReportError) : PassResult :=
  let after := { report with
    sections := st.sections
    groups := st.layout.groups
    rows := st.layout.row }
  match fault with
  | some e =>
    let e := e.inListing path
    ⟨after, .error e, (st.note (.aborted st.layout.line e)).journal.toList⟩
  | none => ⟨after, .ok st.summary, (st.note (.processed st.summary)).journal.toList⟩

def run (report : Report) (reading : Reading) (path : Option Path) : PassResult :=
  match PassState.readItems report (PassState.start report.sections) reading.items with
  | (st, some e) => report.conclude st path (some e)
  | (st, none) =>
    match reading.failure with
    | some cause => report.conclude st path (some (.file (path.getD default) cause))
    | none =>
      let (st, fault) := st.closeGroup st.lastLine false
      report.conclude st path fault

def process (report : Report) (lines : List String) : PassResult :=
  report.run ⟨lines.map .line, none⟩ none

def ofFile (store : Store) (path : Path) : Except ReportError Report :=
  match store.readText path with
  | .error cause => .error (.file path cause)
  | .ok text => ofText text

/-- A pass over a listing, given what opening it has led to. -/
def processOpened (report : Report) (path : Path) :
    Except FileError (List Answer) → PassResult
  | .error cause => ⟨report, .error (.file path cause), []⟩
  | .ok answers => report.run (Reading.ofAnswers report.encoding answers) (some path)

def processFile (report : Report) (store : Store) (path : Path) : PassResult :=
  report.processOpened path (store.openListing path)

end Report

end ListingGrid
