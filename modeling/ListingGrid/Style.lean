import ListingGrid.Text.Ascii

/-!
# Cell styles

A style is a name and a set of optional attributes. Reports pass the names of
styles on to cells; only sheets give the attributes a meaning.
-/

set_option autoImplicit false

namespace ListingGrid

inductive HorizontalAlign where
  | left
  | center
  | right
  | justify
  deriving DecidableEq, Repr

namespace HorizontalAlign

def all : List HorizontalAlign := [.left, .center, .right, .justify]

def keyword : HorizontalAlign → String
  | .left => "left"
  | .center => "center"
  | .right => "right"
  | .justify => "justify"

end HorizontalAlign

inductive VerticalAlign where
  | top
  | bottom
  | center
  | justify
  deriving DecidableEq, Repr

namespace VerticalAlign

def all : List VerticalAlign := [.top, .bottom, .center, .justify]

def keyword : VerticalAlign → String
  | .top => "top"
  | .bottom => "bottom"
  | .center => "center"
  | .justify => "justify"

end VerticalAlign

inductive Border where
  | noLine
  | thin
  | medium
  | dashed
  | dotted
  | thick
  | double
  | hair
  | mediumDashed
  | thinDashDotted
  | mediumDashDotted
  | thinDashDotDotted
  | mediumDashDotDotted
  | slantedMediumDashDotted
  deriving DecidableEq, Repr

namespace Border

def all : List Border :=
  [.noLine, .thin, .medium, .dashed, .dotted, .thick, .double, .hair, .mediumDashed,
    .thinDashDotted, .mediumDashDotted, .thinDashDotDotted, .mediumDashDotDotted,
    .slantedMediumDashDotted]

def keyword : Border → String
  | .noLine => "no_line"
  | .thin => "thin"
  | .medium => "medium"
  | .dashed => "dashed"
  | .dotted => "dotted"
  | .thick => "thick"
  | .double => "double"
  | .hair => "hair"
  | .mediumDashed => "medium_dashed"
  | .thinDashDotted => "thin_dash_dotted"
  | .mediumDashDotted => "medium_dash_dotted"
  | .thinDashDotDotted => "thin_dash_dot_dotted"
  | .mediumDashDotDotted => "medium_dash_dot_dotted"
  | .slantedMediumDashDotted => "slanted_medium_dash_dotted"

def index : Border → Nat
  | .noLine => 0
  | .thin => 1
  | .medium => 2
  | .dashed => 3
  | .dotted => 4
  | .thick => 5
  | .double => 6
  | .hair => 7
  | .mediumDashed => 8
  | .thinDashDotted => 9
  | .mediumDashDotted => 10
  | .thinDashDotDotted => 11
  | .mediumDashDotDotted => 12
  | .slantedMediumDashDotted => 13

end Border

inductive ColorName where
  | black
  | blue
  | brown
  | cyan
  | gray
  | green
  | lime
  | magenta
  | navy
  | orange
  | pink
  | purple
  | red
  | silver
  | white
  | yellow
  deriving DecidableEq, Repr

namespace ColorName

def all : List ColorName :=
  [.black, .blue, .brown, .cyan, .gray, .green, .lime, .magenta, .navy, .orange, .pink,
    .purple, .red, .silver, .white, .yellow]

def keyword : ColorName → String
  | .black => "black"
  | .blue => "blue"
  | .brown => "brown"
  | .cyan => "cyan"
  | .gray => "gray"
  | .green => "green"
  | .lime => "lime"
  | .magenta => "magenta"
  | .navy => "navy"
  | .orange => "orange"
  | .pink => "pink"
  | .purple => "purple"
  | .red => "red"
  | .silver => "silver"
  | .white => "white"
  | .yellow => "yellow"

def rgb : ColorName → Nat
  | .black => 0x000000
  | .blue => 0x0000FF
  | .brown => 0x800000
  | .cyan => 0x00FFFF
  | .gray => 0x808080
  | .green => 0x008000
  | .lime => 0x00FF00
  | .magenta => 0xFF00FF
  | .navy => 0x000080
  | .orange => 0xFF6600
  | .pink => 0xFF00FF
  | .purple => 0x800080
  | .red => 0xFF0000
  | .silver => 0xC0C0C0
  | .white => 0xFFFFFF
  | .yellow => 0xFFFF00

end ColorName

inductive Color where
  | named (name : ColorName)
  | code (digits : String)
  deriving DecidableEq, Repr

namespace Color

/-- A text that names a palette color is that color, any other is a code. -/
def ofText (text : String) : Color :=
  match ColorName.all.find? fun name => name.keyword == text with
  | some name => .named name
  | none => .code text

def codeValue? (code : List Char) : Option Nat :=
  let digits := match code.dropWhile (· == '#') with
    | '+' :: rest => rest
    | rest => rest
  if digits.isEmpty || !digits.all Text.isHexDigit then none
  else
    let value := Text.hexadecimalValue digits
    if value < Nat.pow 2 32 then some value else none

def rgb? : Color → Option Nat
  | .named name => some name.rgb
  | .code digits => codeValue? digits.toList

def text : Color → String
  | .named name => name.keyword
  | .code digits => digits

end Color

structure Style where
  id : String
  numFormat : Option String
  fontName : Option String
  fontSize : Option Nat
  bold : Bool
  italic : Bool
  underline : Bool
  strikeout : Bool
  align : Option HorizontalAlign
  valign : Option VerticalAlign
  border : Option Border
  borderColor : Option Color
  background : Option Color
  fontColor : Option Color
  unlocked : Bool
  hidden : Bool
  wrap : Bool
  shrink : Bool
  deriving DecidableEq, Repr

namespace Style

def plain (id : String) : Style :=
  ⟨id, none, none, none, false, false, false, false, none, none, none, none, none, none,
    false, false, false, false⟩

def quoted (text : String) : String := "\"" ++ text ++ "\""

def attributes (s : Style) : List (String × String) :=
  let valued (name : String) (value : Option String) : List (String × String) :=
    value.toList.map fun text => (name, text)
  let flag (name : String) (on : Bool) : List (String × String) :=
    if on then [(name, "true")] else []
  valued "num_format" (s.numFormat.map quoted) ++
    valued "font_name" (s.fontName.map quoted) ++
    valued "font_size" (s.fontSize.map Text.naturalText) ++
    flag "bold" s.bold ++ flag "italic" s.italic ++ flag "underline" s.underline ++
    flag "strikeout" s.strikeout ++
    valued "align" (s.align.map (·.keyword)) ++ valued "valign" (s.valign.map (·.keyword)) ++
    valued "border" (s.border.map (·.keyword)) ++
    valued "border_color" (s.borderColor.map (·.text)) ++
    valued "background" (s.background.map (·.text)) ++
    valued "font_color" (s.fontColor.map (·.text)) ++
    flag "unlocked" s.unlocked ++ flag "hidden" s.hidden ++ flag "wrap" s.wrap ++
    flag "shrink" s.shrink

def text (s : Style) : String :=
  "style " ++ s.id ++
    String.join (s.attributes.map fun (name, value) => " " ++ name ++ "=" ++ value)

end Style

end ListingGrid
