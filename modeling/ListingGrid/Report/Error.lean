import ListingGrid.Files.Fault
import ListingGrid.Files.Path
import ListingGrid.Grammar.SourceError
import ListingGrid.Section

/-!
# Why a report cannot be loaded or a listing not processed
-/

set_option autoImplicit false

namespace ListingGrid

inductive ReportError where
  | source (cause : Grammar.SourceError)
  /-- A field that cannot be built; its place, and its line in the definition. -/
  | field (sectionIndex : Nat) (role : Role) (fieldset line : Nat) (cause : FieldError)
  | filter (pattern : String)
  | mismatch (path : Option Path) (line : Nat) (name : String) (cause : FormatMismatch)
  | file (path : Path) (cause : FileError)
  deriving DecidableEq, Repr

namespace ReportError

def chain : ReportError → List String
  | .source cause => [cause.text]
  | .field sectionIndex role fieldset line cause =>
    ["section " ++ Text.naturalText sectionIndex ++ ", " ++ role.keyword ++ " fieldset " ++
      Text.naturalText fieldset ++ " (line " ++ Text.naturalText line ++ "): " ++ cause.message,
      cause.message]
  | .filter pattern => ["invalid filter pattern \"" ++ pattern ++ "\""]
  | .mismatch path line name cause =>
    [(match path with
      | some path => path.text ++ ": "
      | none => "") ++ "line " ++ Text.naturalText line ++ ", field " ++ name ++ ": " ++
      cause.message,
      cause.message]
  | .file path cause => ["failed to read " ++ path.text, cause.message]

def message (e : ReportError) : String := e.chain.headD ""

def line? : ReportError → Option Nat
  | .mismatch _ line _ _ => some line
  | _ => none

def inListing (path : Option Path) : ReportError → ReportError
  | .mismatch none line name cause => .mismatch path line name cause
  | e => e

end ReportError

end ListingGrid
