import ListingGrid.Definition
import ListingGrid.Grammar.Formula
import ListingGrid.Grammar.Style

/-!
# Reading report definitions

A definition begins with its title. Description, encoding, column widths and
exclude filters may follow in this order, then styles, then at least one
section. The title is the rest of its line and the description everything up
to its closing mark; all else is made of tokens, with blanks and comments
between them as one likes.
-/

set_option autoImplicit false

namespace ListingGrid.Grammar.Report

open ListingGrid.Grammar.Parser

def string (s : List Char) : String := String.ofList s

def title : Parser String := do
  let _ ← takeWhile fun c => c == ' ' || c == '\t'
  map (fun line => string (Text.trim line)) restOfLine

def takeUntil (mark : List Char) : Parser (List Char) := fun s =>
  match Text.cutAround? mark s with
  | some (before, after) => .done before after
  | none => .fail ⟨s, .unexpected⟩

def descriptionEnd : String := "/description"

def description : Parser String :=
  label descriptionEnd (map (fun text => string (Text.trim text)) (takeUntil descriptionEnd.toList))

def isEncodingChar (c : Char) : Bool := Text.isAlphanumeric c || c == '-' || c == '_'

def encoding : Parser Encoding :=
  lexeme (label "utf-8, ascii, latin-1, utf-16 or utf-16-le"
    (filterMap (takeWhile1 isEncodingChar) fun name => Encoding.ofLabel? (string name)))

def clause {α : Type} (name : String) (p : Parser α) : Parser (Option α) :=
  optional (do
    keyword name
    firmly p)

def widths : Parser (List Nat) := label "column width" (many1 (lexeme natural))

def flags (first second : String) (set : Bool × Bool) : Parser (Bool × Bool) := fun s =>
  let again : Result (Bool × Bool) := .abort ⟨skipBlank s, .message "flag given more than once"⟩
  match keyword first (skipBlank s) with
  | .done _ rest =>
    if set.1 then again
    else if rest.length < s.length then flags first second (true, set.2) rest
    else .done set s
  | _ =>
    match keyword second (skipBlank s) with
    | .done _ rest =>
      if set.2 then again
      else if rest.length < s.length then flags first second (set.1, true) rest
      else .done set s
    | _ => .done set s
termination_by s => s.length

def constNumber : Parser Number :=
  filterMap (do
    let sign ← optional (oneOf ['+', '-'])
    let whole ← digits
    let fraction ← optional (do
      let _ ← char '.'
      digits)
    return (sign, whole, fraction))
    fun (sign, whole, fraction) =>
      let negative := sign = some '-'
      match fraction with
      | some run =>
        some (.float (Double.ofDecimal negative (Text.decimalValue (whole ++ run)) (-run.length)))
      | none =>
        let magnitude := Text.decimalValue whole
        let n : Int := if negative then -(magnitude : Int) else magnitude
        if fitsInt64 n then some (.integer n) else none

def constValue : Parser ConstValue :=
  or (map (fun text => .text (string text)) quoted) (map .number constNumber)

def specialField : Parser FieldSpec :=
  firstOf
    (do
      keyword "empty"
      let count ← optional (lexeme integer)
      return .empty (count.getD 1))
    [do
      keyword "const"
      map .const (firmly (label "quoted text or number" (lexeme constValue))),
    do
      keyword "function"
      map (fun text => .function (string text)) (firmly Formula.formula)]

def extraction : Parser Extraction :=
  filterMap identifier fun name =>
    (FieldType.ofKeyword? (string name)).bind Extraction.ofFieldType?

def bound : Parser Int := lexeme (label "column bound" integer)

def extractedField : Parser FieldSpec := do
  let kind ← extraction
  firmly (do
    let left ← bound
    let right ← bound
    return .extracted kind left right)

def startsExtracted (s : List Char) : Bool :=
  match extraction s with
  | .done _ _ => true
  | _ => false

def fieldSpec (inBody : Bool) : Parser FieldSpec := fun s =>
  if !inBody && startsExtracted s then
    .abort ⟨s, .message "extracted field in a header or footer fieldset"⟩
  else
    match (if inBody then or specialField extractedField else specialField) s with
    | .fail _ => .fail ⟨s, .expected "field"⟩
    | result => result

/-- A field with its optional name and style. `source` is the whole definition,
in which the line of the field is counted. -/
def field (source : List Char) (inBody : Bool) : Parser FieldDefinition := fun s =>
  let start := skipBlank s
  let line := Text.lineNumber (source.take (source.length - start.length))
  let rest : Parser FieldDefinition := do
    let spec ← fieldSpec inBody
    let name ← clause "as" (label "field name" (lexeme identifier))
    let styleId ← optional (do
      let _ ← lexeme (char ':')
      firmly (label "style id" (lexeme identifier)))
    return ⟨spec, name.map string, styleId.map string, line⟩
  rest start

def specialFieldset (source : List Char) : Parser FieldsetDefinition := do
  keyword "fieldset"
  let fields ← firmly (many1 (field source false))
  return ⟨[], false, false, fields⟩

def bodyFieldset (source : List Char) : Parser FieldsetDefinition := do
  keyword "fieldset"
  let filters ← firmly (do
    keyword "include_filters"
    quotedList)
  let (newRow, keepInRow) ← flags "new_row" "keep_in_row" (false, false)
  let fields ← firmly (many1 (field source true))
  return ⟨filters, newRow, keepInRow, fields⟩

def sectionDefinition (source : List Char) : Parser SectionDefinition := do
  keyword "section"
  let (once, blankRow) ← flags "process_only_one_time" "blank_row" (false, false)
  let header ← clause "header" (many1 (specialFieldset source))
  let body ← firmly (do
    keyword "body"
    many1 (bodyFieldset source))
  let footer ← clause "footer" (many1 (specialFieldset source))
  return ⟨once, blankRow, header.getD [], body, footer.getD []⟩

def definition (source : List Char) : Parser Definition := do
  keyword "title"
  let titleText ← title
  let descriptionText ← clause "description" description
  let enc ← clause "encoding" encoding
  let columnWidths ← clause "columns_width" widths
  let excludeFilters ← clause "exclude_filters" quotedList
  let styles ← many StyleBlock.style
  let sections ← many1 (sectionDefinition source)
  return ⟨titleText, descriptionText, enc, columnWidths.getD [], excludeFilters.getD [],
    styles, sections⟩

def whole (source : List Char) : Parser Definition := do
  let d ← definition source
  blank
  return d

end Report

def readDefinition (text : String) : Except SourceError Definition :=
  readAll .definition (Report.whole text.toList) text.toList

theorem readDefinition_ofList {text : String} {source : List Char}
    (htext : text = String.ofList source) :
    readDefinition text = readAll .definition (Report.whole source) source := by
  rw [readDefinition, htext, String.toList_ofList]

end ListingGrid.Grammar
