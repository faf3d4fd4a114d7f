import ListingGrid.Encoding
import ListingGrid.Field
import ListingGrid.Style

/-!
# Report definitions

A definition as it was read, before anything about it is checked: bounds and
counts are kept as they were written, and filters are texts.
-/

set_option autoImplicit false

namespace ListingGrid

inductive FieldSpec where
  | extracted (extraction : Extraction) (left right : Int)
  | empty (count : Int)
  | const (value : ConstValue)
  | function (formula : String)
  deriving DecidableEq, Repr

structure FieldDefinition where
  spec : FieldSpec
  name : Option String
  styleId : Option String
  line : Nat
  deriving DecidableEq, Repr

structure FieldsetDefinition where
  includeFilters : List String
  newRow : Bool
  keepInRow : Bool
  fields : List FieldDefinition
  deriving DecidableEq, Repr

structure SectionDefinition where
  once : Bool
  blankRow : Bool
  header : List FieldsetDefinition
  body : List FieldsetDefinition
  footer : List FieldsetDefinition
  deriving DecidableEq, Repr

structure Definition where
  title : String
  description : Option String
  encoding : Option Encoding
  columnWidths : List Nat
  excludeFilters : List String
  styles : List Style
  sections : List SectionDefinition
  deriving DecidableEq, Repr

namespace Definition

def fieldCount (d : Definition) : Nat :=
  (d.sections.flatMap fun s => s.header ++ s.body ++ s.footer).foldl
    (fun n fieldset => n + fieldset.fields.length) 0

end Definition

end ListingGrid
