import ListingGrid.Number.Builtin
import ListingGrid.Placeholder
import ListingGrid.Text.Cut

/-!
# Fields

A field fills one cell of a row, or several empty ones. It is cut out of the
line at fixed columns, or it holds a constant or a formula. Columns of a line
are counted in characters.
-/

set_option autoImplicit false

namespace ListingGrid

inductive FieldType where
  | function
  | empty
  | const
  | string
  | fixed
  | numeric (tag : NumericTag)
  deriving DecidableEq, Repr

namespace FieldType

def keyword : FieldType → String
  | .function => "function"
  | .empty => "empty"
  | .const => "const"
  | .string => "string"
  | .fixed => "fixed"
  | .numeric tag => tag.keyword

def all : List FieldType :=
  [.function, .empty, .const, .string, .fixed] ++ NumericTag.all.map .numeric

def ofKeyword? (word : String) : Option FieldType :=
  all.find? fun type => Text.sameText type.keyword word

def isSpecial : FieldType → Bool
  | .function | .empty | .const => true
  | _ => false

def isExtracted (type : FieldType) : Bool := !type.isSpecial

def isNumeric : FieldType → Bool
  | .numeric _ => true
  | _ => false

def isCalculated : FieldType → Bool
  | .function => true
  | _ => false

def needsTransform : FieldType → Bool
  | .string | .numeric _ => true
  | _ => false

end FieldType

inductive CellValue where
  | empty
  | text (text : String)
  | number (number : Number)
  | formula (text : String)
  deriving DecidableEq, Repr

namespace CellValue

def isEmpty : CellValue → Bool
  | .empty => true
  | _ => false

def text? : CellValue → Option String
  | .text s | .formula s => some s
  | _ => none

def number? : CellValue → Option Number
  | .number n => some n
  | _ => none

def display : CellValue → String
  | .empty => ""
  | .text s | .formula s => s
  | .number n => n.text

end CellValue

inductive Extraction where
  | string
  | fixed
  | numeric (tag : NumericTag)
  deriving DecidableEq, Repr

namespace Extraction

def fieldType : Extraction → FieldType
  | .string => .string
  | .fixed => .fixed
  | .numeric tag => .numeric tag

def ofFieldType? : FieldType → Option Extraction
  | .string => some .string
  | .fixed => some .fixed
  | .numeric tag => some (.numeric tag)
  | .function | .empty | .const => none

def transform (extraction : Extraction) (raw : String) : Except FormatMismatch CellValue :=
  match extraction with
  | .string => .ok (.text (Text.trimmed raw))
  | .fixed => .ok (.text raw)
  | .numeric tag => (tag.toNumber (Text.trimmed raw)).map .number

end Extraction

inductive FieldError where
  | negativeLeftBound (index : Nat) (left : Int)
  | invertedRange (index : Nat) (left right : Int)
  | invalidRepeat (index : Nat) (count : Int)
  deriving DecidableEq, Repr

def FieldError.message : FieldError → String
  | .negativeLeftBound index left =>
    "column " ++ Text.naturalText index ++ ": left bound (left=" ++ Text.integerText left ++
      ") is lower than 0"
  | .invertedRange index left right =>
    "column " ++ Text.naturalText index ++ ": right bound (right=" ++ Text.integerText right ++
      ") is lower than left bound (left=" ++ Text.integerText left ++ ")"
  | .invalidRepeat index count =>
    "column " ++ Text.naturalText index ++
      ": empty field repeat count must be at least 1, got " ++ Text.integerText count

/-- The columns from `left` on, up to `right` but not with it. -/
structure ColumnRange where
  left : Nat
  right : Nat
  left_le_right : left ≤ right
  deriving DecidableEq, Repr

namespace ColumnRange

def ofBounds (index : Nat) (left right : Int) : Except FieldError ColumnRange :=
  if _ : left < 0 then .error (.negativeLeftBound index left)
  else if _ : right < left then .error (.invertedRange index left right)
  else .ok ⟨left.toNat, right.toNat, by omega⟩

def sliceChars (range : ColumnRange) (line : List Char) : List Char :=
  (line.drop range.left).take (range.right - range.left)

def slice (range : ColumnRange) (line : String) : String :=
  String.ofList (range.sliceChars line.toList)

end ColumnRange

inductive ConstValue where
  | text (text : String)
  | number (number : Number)
  deriving DecidableEq, Repr

namespace ConstValue

def display : ConstValue → String
  | .text s => "\"" ++ s ++ "\""
  | .number n => n.text

def toCellValue : ConstValue → CellValue
  | .text s => .text s
  | .number n => .number n

end ConstValue

inductive FieldKind where
  | extracted (extraction : Extraction) (range : ColumnRange)
  | empty (count : Nat)
  | const (value : ConstValue)
  | function (formula : String)
  deriving DecidableEq, Repr

structure Field where
  index : Nat
  kind : FieldKind
  name : Option String
  styleId : Option String
  deriving DecidableEq, Repr

namespace Field

def extracted (index : Nat) (extraction : Extraction) (left right : Int)
    (name styleId : Option String) : Except FieldError Field := do
  let range ← ColumnRange.ofBounds index left right
  return ⟨index, .extracted extraction range, name, styleId⟩

def empty (index : Nat) (count : Int) (name styleId : Option String) : Except FieldError Field :=
  if count < 1 then .error (.invalidRepeat index count)
  else .ok ⟨index, .empty count.toNat, name, styleId⟩

def type (field : Field) : FieldType :=
  match field.kind with
  | .extracted extraction _ => extraction.fieldType
  | .empty _ => .empty
  | .const _ => .const
  | .function _ => .function

def range? (field : Field) : Option ColumnRange :=
  match field.kind with
  | .extracted _ range => some range
  | _ => none

def width (field : Field) : Nat :=
  match field.kind with
  | .empty count => count
  | _ => 1

/-- The field as a report definition would spell it. -/
def text (field : Field) : String :=
  let body := match field.kind with
    | .extracted _ range => Text.naturalText range.left ++ " " ++ Text.naturalText range.right
    | .empty count => Text.naturalText count
    | .const value => value.display
    | .function formula => formula
  field.type.keyword ++ " " ++ body ++
    (match field.name with
      | some name => " as " ++ name
      | none => "") ++
    (match field.styleId with
      | some id => " :" ++ id
      | none => "")

end Field

end ListingGrid
