import ListingGrid.Text.Ascii

/-!
# Output formats
-/

set_option autoImplicit false

namespace ListingGrid

inductive OutputFormat where
  | xlsx
  | csv
  | json
  | xml
  | html
  deriving DecidableEq, Repr

namespace OutputFormat

def all : List OutputFormat := [.xlsx, .csv, .json, .xml, .html]

def extension : OutputFormat → String
  | .xlsx => "xlsx"
  | .csv => "csv"
  | .json => "json"
  | .xml => "xml"
  | .html => "html"

def ofText? (text : String) : Option OutputFormat :=
  all.find? fun format => Text.sameText format.extension text

def unknownMessage (text : String) : String := "unknown output format: " ++ text

end OutputFormat

structure RenderOptions where
  author : String
  sheetName : Option String
  delimiter : Nat
  pretty : Bool
  deriving DecidableEq, Repr

namespace RenderOptions

def default : RenderOptions := ⟨"spool 0.1.0", none, ';'.toNat, true⟩

end RenderOptions

end ListingGrid
