import ListingGrid.Report.Basic

/-!
# Nested objects

The grid as an object of groups, rows and named values. Values of one row are
kept in the order of their names, and of equal names the last cell counts. A
decimal is written as a number when a reader that knows only doubles gets it
back unchanged, otherwise as a text.
-/

set_option autoImplicit false

namespace ListingGrid.Json

def numberLayout : Double.Layout := ⟨some (-5), some 15, true⟩

inductive Scalar where
  | null
  | text (text : String)
  | integer (value : Int)
  | number (value : Double)
  deriving DecidableEq, Repr

def hexadecimal4 (n : Nat) : List Char :=
  let digits := Text.hexadecimalDigits n
  List.replicate (4 - digits.length) '0' ++ digits

def escapeChar (c : Char) : List Char :=
  match c with
  | '"' => ['\\', '"']
  | '\\' => ['\\', '\\']
  | '\x08' => ['\\', 'b']
  | '\x0c' => ['\\', 'f']
  | '\n' => ['\\', 'n']
  | '\r' => ['\\', 'r']
  | '\t' => ['\\', 't']
  | _ => if c.toNat < 0x20 then '\\' :: 'u' :: hexadecimal4 c.toNat else [c]

def quote (s : List Char) : List Char := '"' :: s.flatMap escapeChar ++ ['"']

def quoteString (s : String) : List Char := quote s.toList

def Scalar.render : Scalar → List Char
  | .null => "null".toList
  | .text s => quoteString s
  | .integer n => (Text.integerText n).toList
  | .number d => if d.isFinite then d.text numberLayout else "null".toList

def greatestWord : Nat := Nat.pow 2 64 - 1

def wholeDigits : List Char → Nat → Nat × Nat
  | [], n => (n, 0)
  | c :: rest, n =>
    let next := 10 * n + Text.digitValue c
    if greatestWord < next then (n, rest.length + 1) else wholeDigits rest next

/-- Digits of a fraction read behind a number: the number, and how many digits
were read before one did not fit. -/
def fractionDigits : List Char → Nat → Nat → Nat × Nat
  | [], n, places => (n, places)
  | c :: rest, n, places =>
    let next := 10 * n + Text.digitValue c
    if greatestWord < next then (n, places) else fractionDigits rest next (places + 1)

def powerOfTen (n : Nat) : Double := Double.nearest false (Nat.pow 10 n) 1

/-- A double scaled by a power of ten, by steps of at most 308 places. -/
def scale (value : Double) (exponent : Int) : Double :=
  if 0 ≤ exponent then value.multiply (powerOfTen exponent.toNat)
  else
    let places := (-exponent).toNat
    let steps := (places - 1) / 308
    let shrunk := (List.range steps).foldl (fun v _ => v.divide (powerOfTen 308)) value
    shrunk.divide (powerOfTen (places - 308 * steps))

/-- Reads the text of a decimal as a number: an integer where it has neither
point nor exponent and fits 64 bits, and otherwise a double, the digits first
and then the power of ten. There is none when that leaves the range of doubles. -/
def readNumber? (text : List Char) : Option Scalar :=
  let negative := text.head? = some '-'
  let body := if negative then text.drop 1 else text
  let (base, exponentPart) := Text.cutAt (fun c => c == 'e' || c == 'E') body
  let (whole, fractionPart) := Text.cutAt (· == '.') base
  let fraction := fractionPart.getD []
  let exponent := (exponentPart.bind Decimal.exponent?).getD 0
  let (n, dropped) := wholeDigits whole 0
  let isInteger := fractionPart.isNone && exponentPart.isNone && dropped == 0
  if isInteger && !negative then some (.integer n)
  else if isInteger && n ≤ Nat.pow 2 63 then some (.integer (-(n : Int)))
  else
    let (n, places) := fractionDigits fraction n 0
    let scaled := scale (Double.nearest negative n 1) ((dropped : Int) - places + exponent)
    if scaled.isFinite then some (.number scaled) else none

def survivesDouble (d : Decimal) : Bool :=
  let double := d.toDouble
  double.isFinite &&
    match Decimal.ofChars? (double.text Double.plain) with
    | some back => Decimal.sameValue back d
    | none => false

def decimalScalar (d : Decimal) : Scalar :=
  let asText := Scalar.text (String.ofList d.text)
  if survivesDouble d then (readNumber? d.text).getD asText else asText

def valueScalar : CellValue → Scalar
  | .empty => .null
  | .text s | .formula s => .text s
  | .number (.integer n) => .integer n
  | .number (.float d) => if d.isFinite then .number d else .null
  | .number (.decimal d) => decimalScalar d

abbrev Rendered : Type := Option Nat → List Char

def scalar (s : Scalar) : Rendered := fun _ => s.render

def newLine (depth : Nat) : List Char := '\n' :: List.replicate (2 * depth) ' '

def items (depth : Option Nat) : List (List Char) → List Char
  | [] => []
  | [item] => lead depth ++ item
  | item :: more => lead depth ++ item ++ ',' :: items depth more
where
  lead (depth : Option Nat) : List Char :=
    match depth with
    | some d => newLine d
    | none => []

def enclose (opening closing : Char) (contents : List Rendered) : Rendered := fun depth =>
  if contents.isEmpty then [opening, closing]
  else
    let inner := depth.map (· + 1)
    let ending := match depth with
      | some d => newLine d
      | none => []
    opening :: items inner (contents.map fun item => item inner) ++ ending ++ [closing]

def array (contents : List Rendered) : Rendered := enclose '[' ']' contents

def object (members : List (String × Rendered)) : Rendered :=
  enclose '\x7b' '\x7d' (members.map fun (key, value) depth =>
    quoteString key ++ ':' :: (if depth.isSome then [' '] else []) ++ value depth)

def insertMember (key : String) (value : Scalar) : List (String × Scalar) → List (String × Scalar)
  | [] => [(key, value)]
  | (other, old) :: more =>
    if key < other then (key, value) :: (other, old) :: more
    else if other < key then (other, old) :: insertMember key value more
    else (key, value) :: more

def rowValues (row : Row) : List (String × Scalar) :=
  row.cells.foldl (fun members cell => insertMember cell.name (valueScalar cell.value) members) []

def rowRange (row : Row) : String :=
  match row.cells.head?, row.cells.getLast? with
  | some first, some last => first.address ++ ":" ++ last.address
  | _, _ => ""

def natural (n : Nat) : Rendered := scalar (.integer n)

def text (s : String) : Rendered := scalar (.text s)

def rowObject (row : Row) : Rendered :=
  object [("kind", text row.role.keyword), ("range", text (rowRange row)),
    ("values", object ((rowValues row).map fun (name, value) => (name, scalar value)))]

def groupObject (group : CellGroup) : Rendered :=
  object [("index", natural group.index), ("section", natural group.sectionIndex),
    ("start_row", natural (sheetRow group.startRow)),
    ("rows", array (group.rows.toList.map rowObject))]

def reportObject (report : Report) : Rendered :=
  object ([("title", text report.title)] ++
    (report.description.toList.map fun d => ("description", text d)) ++
    [("groups", array (report.groups.toList.map groupObject))])

def render (pretty : Bool) (report : Report) : List Char :=
  reportObject report (if pretty then some 0 else none) ++ ['\n']

end ListingGrid.Json
