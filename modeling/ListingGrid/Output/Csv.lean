import ListingGrid.Encoding
import ListingGrid.Output.Format
import ListingGrid.Report.Basic

/-!
# Delimited records

Each row of the grid is one record, ended by a line feed. A field is put
between quotes when it holds the delimiter, a quote or a line end, and quotes
inside are doubled. A record of one empty field is written as two quotes, for
otherwise its line would be empty.
-/

set_option autoImplicit false

namespace ListingGrid.Csv

def bytesOf (s : List Char) : List Nat := Text.bytes (String.ofList s)

def needsQuotes (delimiter : Nat) (field : List Char) : Bool :=
  field.any (fun c => c == '"' || c == '\r' || c == '\n') ||
    (bytesOf field).contains delimiter

def doubleQuotes : List Char → List Char
  | [] => []
  | c :: rest => if c = '"' then '"' :: '"' :: doubleQuotes rest else c :: doubleQuotes rest

def fieldText (delimiter : Nat) (field : List Char) : List Char :=
  if needsQuotes delimiter field then '"' :: doubleQuotes field ++ ['"'] else field

def joinWith {α : Type} (separator : α) : List (List α) → List α
  | [] => []
  | [piece] => piece
  | piece :: more => piece ++ separator :: joinWith separator more

def recordText (delimiter : Nat) (fields : List (List Char)) : List Char :=
  match fields with
  | [[]] => ['"', '"', '\n']
  | _ => joinWith (Char.ofNat delimiter) (fields.map (fieldText delimiter)) ++ ['\n']

def recordBytes (delimiter : Nat) (fields : List (List Char)) : List Nat :=
  match fields with
  | [[]] => bytesOf (recordText delimiter fields)
  | _ => joinWith delimiter (fields.map fun field => bytesOf (fieldText delimiter field)) ++
      ['\n'.toNat]

def columnsOf (row : Row) : Nat :=
  row.cells.foldl (fun columns cell => max columns (cell.column + 1)) 0

def fieldsOf (row : Row) : List (List Char) :=
  (row.cells.foldl
    (fun fields cell => fields.setIfInBounds cell.column cell.value.display.toList)
    (Array.replicate (columnsOf row) [])).toList

def rowsOf (report : Report) : List Row := report.groups.toList.flatMap (·.rows.toList)

def render (delimiter : Nat) (report : Report) : List Char :=
  (rowsOf report).flatMap fun row => recordText delimiter (fieldsOf row)

def renderBytes (delimiter : Nat) (report : Report) : List Nat :=
  (rowsOf report).flatMap fun row => recordBytes delimiter (fieldsOf row)

/-- Whether the output is text: a delimiter beyond ASCII is a byte that makes no
character, so it may not occur. -/
def isText (delimiter : Nat) (report : Report) : Bool :=
  delimiter < 128 || (rowsOf report).all fun row => (fieldsOf row).length ≤ 1

end ListingGrid.Csv
