import ListingGrid.Grammar.Parser
import ListingGrid.Text.Cut

/-!
# Errors with a place in the source

The place of a failure is where the text that it left begins. Lines and
columns are counted from 1, columns in characters.
-/

set_option autoImplicit false

namespace ListingGrid.Grammar

inductive SourceKind where
  | definition
  | formula
  deriving DecidableEq, Repr

def SourceKind.label : SourceKind → String
  | .definition => "report definition"
  | .formula => "formula"

structure SourceError where
  kind : SourceKind
  line : Nat
  column : Nat
  message : String
  snippet : String
  deriving DecidableEq, Repr

namespace SourceError

def locate (kind : SourceKind) (source : List Char) (left : Nat) (message : String) :
    SourceError :=
  let before := source.take (source.length - left)
  let line := Text.lineNumber before
  ⟨kind, line, Text.columnNumber before, message,
    String.ofList ((Text.lines source)[line - 1]?.getD [])⟩

def text (e : SourceError) : String :=
  e.kind.label ++ " syntax error at line " ++ Text.naturalText e.line ++ ", column " ++
    Text.naturalText e.column ++ ": " ++ e.message

/-- The line of the source with a mark under the column. Tabs in front of it
are kept so that the mark stands where it should. -/
def pointer (e : SourceError) : String :=
  let pad := (e.snippet.toList.take (e.column - 1)).map fun c => if c = '\t' then '\t' else ' '
  e.snippet ++ "\n" ++ String.ofList pad ++ "^"

end SourceError

def readAll {α : Type} (kind : SourceKind) (parser : Parser α) (source : List Char) :
    Except SourceError α :=
  let whole : Parser α := do
    let value ← parser
    Parser.ending
    return value
  match whole source with
  | .done value _ => .ok value
  | .fail failure | .abort failure =>
    .error (SourceError.locate kind source failure.rest.length failure.describe)

end ListingGrid.Grammar
