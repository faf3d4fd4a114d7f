import ListingGrid.Style
import ListingGrid.Text.Quoted

/-!
# Formats of sheet cells

A format gives every attribute of a cell; the format of a style differs from
the plain one in the attributes that the style sets. A color that is no number
leaves its attribute as it is.
-/

set_option autoImplicit false

namespace ListingGrid

structure SheetFormat where
  numFormat : String
  fontName : String
  fontSize : Nat
  bold : Bool
  italic : Bool
  underline : Bool
  strikeout : Bool
  align : Option HorizontalAlign
  valign : Option VerticalAlign
  border : Border
  borderColor : Option Nat
  background : Option Nat
  fontColor : Option Nat
  unlocked : Bool
  hidden : Bool
  wrap : Bool
  shrink : Bool
  deriving DecidableEq, Repr

inductive FormatFact where
  | flag
  | text (text : String)
  | line (name : String) (color : Option String)
  deriving DecidableEq, Repr

namespace SheetFormat

def plain : SheetFormat :=
  ⟨"", "Calibri", 11, false, false, false, false, none, none, .noLine, none, none, none,
    false, false, false, false⟩

def ofStyle (s : Style) : SheetFormat where
  numFormat := s.numFormat.getD plain.numFormat
  fontName := s.fontName.getD plain.fontName
  fontSize := s.fontSize.getD plain.fontSize
  bold := s.bold
  italic := s.italic
  underline := s.underline
  strikeout := s.strikeout
  align := s.align
  valign := s.valign
  border := s.border.getD .noLine
  borderColor := s.borderColor.bind (·.rgb?)
  background := s.background.bind (·.rgb?)
  fontColor := s.fontColor.bind (·.rgb?)
  unlocked := s.unlocked
  hidden := s.hidden
  wrap := s.wrap
  shrink := s.shrink

def lineName? : Border → Option String
  | .noLine => none
  | .thin => some "thin"
  | .medium => some "medium"
  | .dashed => some "dashed"
  | .dotted => some "dotted"
  | .thick => some "thick"
  | .double => some "double"
  | .hair => some "hair"
  | .mediumDashed => some "mediumDashed"
  | .thinDashDotted => some "dashDot"
  | .mediumDashDotted => some "mediumDashDot"
  | .thinDashDotDotted => some "dashDotDot"
  | .mediumDashDotDotted => some "mediumDashDotDot"
  | .slantedMediumDashDotted => some "slantDashDot"

def colorText (rgb : Nat) : String :=
  let digits := Text.upperAll (Text.hexadecimalDigits rgb)
  String.ofList ('F' :: 'F' :: List.replicate (6 - digits.length) '0' ++ digits)

def shrinks (f : SheetFormat) : Bool := f.shrink && !f.wrap && f.align != some .justify

def facts (f : SheetFormat) : List (String × FormatFact) :=
  let flag (name : String) (on : Bool) : List (String × FormatFact) :=
    if on then [(name, .flag)] else []
  let told (name : String) (value : Option String) : List (String × FormatFact) :=
    value.toList.map fun text => (name, .text text)
  let line := lineName? f.border
  let edge (name : String) : List (String × FormatFact) :=
    line.toList.map fun text => (name, .line text (f.borderColor.map colorText))
  flag "bold" f.bold ++ flag "italic" f.italic ++ flag "underline" f.underline ++
    flag "strikeout" f.strikeout ++
    told "size"
      (if f.fontSize = plain.fontSize then none else some (Text.naturalText f.fontSize)) ++
    told "font" (if f.fontName = plain.fontName then none else some f.fontName) ++
    told "color" (f.fontColor.map colorText) ++ told "background" (f.background.map colorText) ++
    edge "border_left" ++ edge "border_right" ++ edge "border_top" ++ edge "border_bottom" ++
    told "num_format" (if f.numFormat.isEmpty then none else some f.numFormat) ++
    told "horizontal" (f.align.map (·.keyword)) ++
    told "vertical" (match f.valign with
      | some .bottom => none
      | v => v.map (·.keyword)) ++
    told "wrapText" (if f.wrap then some "1" else none) ++
    told "shrinkToFit" (if f.shrinks then some "1" else none) ++
    told "locked" (if f.unlocked then some "0" else none) ++
    told "hidden" (if f.hidden then some "1" else none)

end SheetFormat

end ListingGrid
