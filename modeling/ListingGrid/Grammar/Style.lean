import ListingGrid.Grammar.Lexis
import ListingGrid.Style

/-!
# Style blocks

A style has a name and options in any order, each at most once. Colors are
the names of the palette or six hexadecimal digits; they are written without
a hash, which would begin a comment.
-/

set_option autoImplicit false

namespace ListingGrid.Grammar.StyleBlock

open ListingGrid.Grammar.Parser

inductive StyleOption where
  | format (text : String)
  | font (name : String)
  | size (points : Nat)
  | bold
  | italic
  | underline
  | strikeout
  | align (side : HorizontalAlign)
  | valign (side : VerticalAlign)
  | border (tint : Option Color) (line : Border)
  | background (tint : Color)
  | color (tint : Color)
  | unlocked
  | hidden
  | wrap
  | shrink
  deriving DecidableEq, Repr

namespace StyleOption

def keyword : StyleOption → String
  | .format _ => "format"
  | .font _ => "font"
  | .size _ => "size"
  | .bold => "bold"
  | .italic => "italic"
  | .underline => "underline"
  | .strikeout => "strikeout"
  | .align _ => "align"
  | .valign _ => "valign"
  | .border _ _ => "border"
  | .background _ => "background"
  | .color _ => "color"
  | .unlocked => "unlocked"
  | .hidden => "hidden"
  | .wrap => "wrap"
  | .shrink => "shrink"

def apply (style : Style) : StyleOption → Style
  | .format text => { style with numFormat := some text }
  | .font name => { style with fontName := some name }
  | .size points => { style with fontSize := some points }
  | .bold => { style with bold := true }
  | .italic => { style with italic := true }
  | .underline => { style with underline := true }
  | .strikeout => { style with strikeout := true }
  | .align side => { style with align := some side }
  | .valign side => { style with valign := some side }
  | .border tint line => { style with border := some line, borderColor := tint }
  | .background tint => { style with background := some tint }
  | .color tint => { style with fontColor := some tint }
  | .unlocked => { style with unlocked := true }
  | .hidden => { style with hidden := true }
  | .wrap => { style with wrap := true }
  | .shrink => { style with shrink := true }

end StyleOption

def choice {α : Type} (all : List α) (keyword : α → String) : Parser α :=
  filterMap identifier fun name => all.find? fun a => Text.sameWord (keyword a).toList name

def borderLine : Parser Border := choice Border.all Border.keyword

def paletteColor : Parser Color := map .named (choice ColorName.all ColorName.keyword)

def colorCode : Parser Color := do
  let code ← takeBetween 6 6 Text.isHexDigit
  notFollowedBy Text.isWordChar
  return .code (String.ofList ('#' :: Text.upperAll code))

def color : Parser Color := or paletteColor colorCode

def border : Parser StyleOption :=
  or
    (do
      let c ← lexeme color
      let line ← lexeme borderLine
      return .border (some c) line)
    (do
      let line ← lexeme borderLine
      let c ← optional (lexeme color)
      return .border c line)

def valued (name : String) (p : Parser StyleOption) : Parser StyleOption := do
  keyword name
  firmly p

def flag (option : StyleOption) : Parser StyleOption :=
  map (fun _ => option) (keyword option.keyword)

def styleOption : Parser StyleOption :=
  firstOf (valued "format" (map (fun t => .format (String.ofList t)) (lexeme quoted)))
    [valued "font" (map (fun t => .font (String.ofList t)) (lexeme quoted)),
      valued "size" (map .size (label "font size" (lexeme natural))),
      flag .bold, flag .italic, flag .underline, flag .strikeout,
      valued "align" (map .align (label "left, center, right or justify"
        (lexeme (choice HorizontalAlign.all HorizontalAlign.keyword)))),
      valued "valign" (map .valign (label "top, bottom, center or justify"
        (lexeme (choice VerticalAlign.all VerticalAlign.keyword)))),
      valued "border" (label "border line" border),
      valued "background" (map .background (label "color" (lexeme color))),
      valued "color" (map .color (label "color" (lexeme color))),
      flag .unlocked, flag .hidden, flag .wrap, flag .shrink]

def options (seen : List String) (style : Style) : Parser Style := fun s =>
  match styleOption (skipBlank s) with
  | .done option rest =>
    if seen.contains option.keyword then
      .abort ⟨skipBlank s, .message "style option given more than once"⟩
    else if rest.length < s.length then
      options (option.keyword :: seen) (option.apply style) rest
    else .done style s
  | .fail _ => .done style s
  | .abort failure => .abort failure
termination_by s => s.length

def style : Parser Style := do
  keyword "style"
  let id ← firmly (label "style id" (lexeme identifier))
  options [] (Style.plain (String.ofList id))

end ListingGrid.Grammar.StyleBlock
