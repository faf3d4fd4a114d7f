import ListingGrid.Grammar.Lexis
import ListingGrid.Grammar.SourceError

/-!
# Formulas

Formulas are checked and normalized, never evaluated: blanks between tokens
are dropped, cell references are written in upper case, and the references
relative to a cell get an explicit offset. A formula is a quoted text, a
number with an optional sign, or an equals sign and an expression.

Expressions nest, and every nested one is shorter than the text around it, so
the length of the text bounds the depth that has to be read.
-/

set_option autoImplicit false

namespace ListingGrid.Grammar.Formula

open ListingGrid.Grammar.Parser

def number : Parser (List Char) := do
  let whole ← digits
  let fraction ← optional (do
    let _ ← char '.'
    digits)
  return match fraction with
    | some run => whole ++ '.' :: run
    | none => whole

def signedNumber : Parser (List Char) := do
  let sign ← optional (oneOf ['+', '-'])
  let n ← number
  return if sign = some '-' then '-' :: n else n

def relative (name : List Char) : Parser (List Char) := do
  let _ ← char '<'
  let _ ← word name
  let offset ← optional (do
    let _ ← char ':'
    let sign ← optional (oneOf ['+', '-'])
    let run ← digits
    return if sign = some '-' then '-' :: run else run)
  let _ ← char '>'
  return '<' :: name ++ ':' :: offset.getD ['0'] ++ ['>']

def columnId : Parser (List Char) :=
  or (takeWhile1 Text.isLetter) (relative "col".toList)

def rowId : Parser (List Char) :=
  firstOf digits [word "<rows>".toList, word "<startrow>".toList, relative "row".toList]

/-- A column and a row, each with an optional dollar sign, in upper case. A
word character behind it makes it a name instead. -/
def cell : Parser (List Char) := do
  let columnMark ← optional (char '$')
  let column ← columnId
  let rowMark ← optional (char '$')
  let row ← rowId
  notFollowedBy Text.isWordChar
  return Text.upperAll (columnMark.toList ++ column ++ rowMark.toList ++ row)

def range : Parser (List Char) := do
  let first ← cell
  let _ ← char ':'
  let last ← cell
  return first ++ ':' :: last

/-- A range, a cell or a name, tried in this order. -/
def address : Parser (List Char) := firstOf range [cell, identifier]

def pathSeparator : Parser Char := oneOf ['\\', '/']

def drive : Parser (List Char) := do
  let letter ← satisfy Text.isLetter
  let _ ← char ':'
  return [letter, ':']

def isHostChar (c : Char) : Bool := Text.isAlphanumeric c || c == '.' || c == '-' || c == '_'

def server : Parser (List Char) := do
  let opening ← or (tag ['\\', '\\']) (do
    let scheme ← optional (word "smb:".toList)
    let slashes ← tag ['/', '/']
    return scheme.getD [] ++ slashes)
  let host ← takeWhile1 isHostChar
  let separator ← pathSeparator
  let share ← identifier
  return opening ++ host ++ separator :: share

def workbookPath : Parser (List Char) := do
  let root ← optional (or drive server)
  let separator ← pathSeparator
  let folders ← many (do
    let name ← identifier
    let separator ← pathSeparator
    return name ++ [separator])
  return root.getD [] ++ separator :: folders.flatten

def fileName : Parser (List Char) := do
  let stem ← identifier
  let extension ← optional (do
    let _ ← char '.'
    let name ← identifier
    return '.' :: name)
  return stem ++ extension.getD []

def linkedWorkbook : Parser (List Char) := do
  let _ ← char '\''
  let path ← optional workbookPath
  let name ← fileName
  let _ ← char '\''
  return '\'' :: path.getD [] ++ name ++ ['\'']

def isSheetChar (c : Char) : Bool := Text.isAlphanumeric c || c == '-' || c == '_'

/-- A sheet name and an exclamation mark, possibly behind a workbook. -/
def sheet : Parser (List Char) := do
  let book ← optional linkedWorkbook
  let name ← takeBetween 1 31 isSheetChar
  let _ ← char '!'
  return book.getD [] ++ name ++ ['!']

def reference : Parser (List Char) :=
  or
    (do
      let book ← linkedWorkbook
      let _ ← char '!'
      let name ← identifier
      return book ++ '!' :: name)
    (do
      let qualifier ← optional sheet
      let target ← address
      return qualifier.getD [] ++ target)

def relational : Parser (List Char) :=
  firstOf (tag ['<', '>'])
    [tag ['>', '='], tag ['<', '='], tag ['='], tag ['>'], tag ['<']]

def functionName : Parser (List Char) := do
  let first ← identifier
  let more ← many (do
    let _ ← char '.'
    let name ← identifier
    return '.' :: name)
  return first ++ more.flatten

def quotedOperand : Parser (List Char) :=
  map (fun body => '"' :: body ++ ['"']) (lexeme quoted)

def closing : Parser Char := label "closing parenthesis" (lexeme (char ')'))

def joinCommas : List (List Char) → List Char
  | [] => []
  | [item] => item
  | item :: more => item ++ ',' :: joinCommas more

def operand (inner : Parser (List Char)) : Parser (List Char) := or inner quotedOperand

def argument (inner : Parser (List Char)) : Parser (List Char) := do
  let left ← operand inner
  let comparison ← optional (do
    let sign ← lexeme relational
    let right ← firmly (operand inner)
    return sign ++ right)
  return left ++ comparison.getD []

def call (inner : Parser (List Char)) : Parser (List Char) := do
  let name ← functionName
  let _ ← lexeme (char '(')
  let arguments ← sepBy (lexeme (char ',')) (argument inner)
  let _ ← firmly closing
  return name ++ '(' :: joinCommas arguments ++ [')']

def factor (inner : Parser (List Char)) : Parser (List Char) :=
  lexeme (label "expression" (firstOf (call inner)
    [reference,
      number,
      do
        let sign ← oneOf ['+', '-']
        let body ← firmly inner
        return sign :: body,
      do
        let _ ← char '('
        let body ← firmly inner
        let _ ← firmly closing
        return '(' :: body ++ [')']]))

def chain (operators : List Char) (p : Parser (List Char)) : Parser (List Char) := do
  let first ← p
  foldMany (do
    let operator ← lexeme (oneOf operators)
    let next ← firmly p
    return operator :: next) (· ++ ·) first

def term (inner : Parser (List Char)) : Parser (List Char) := chain ['*', '/'] (factor inner)

def sum (inner : Parser (List Char)) : Parser (List Char) := chain ['+', '-'] (term inner)

def expressionWithin : Nat → Parser (List Char)
  | 0 => failing .unexpected
  | depth + 1 => sum (expressionWithin depth)

def expression : Parser (List Char) := fun s => expressionWithin (s.length + 1) s

def formula : Parser (List Char) :=
  lexeme (label "formula (\"text\", number or =expression)" (firstOf quoted
    [signedNumber,
      do
        let _ ← char '='
        let body ← firmly expression
        return '=' :: body]))

def whole : Parser (List Char) := do
  let body ← formula
  blank
  return body

end Formula

def readFormula (text : String) : Except SourceError String :=
  (readAll .formula Formula.whole text.toList).map String.ofList

end ListingGrid.Grammar
