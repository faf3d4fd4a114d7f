import ListingGrid.Grammar.Definition
import ListingGrid.Proofs.Grammar.Numerals

/-!
# Writing report definitions

The tokens of a definition, in the order of the grammar. Flags and the options of a
style may stand in any order, and so may the color and the line of a border. What a
definition does not have is left out. Tokens are laid out with any blanks between them;
only a title is alone on the rest of its line.
-/

set_option autoImplicit false

namespace ListingGrid

open ListingGrid.Grammar

def FieldDefinition.unlined (d : FieldDefinition) : FieldDefinition := { d with line := 0 }

def FieldsetDefinition.unlined (d : FieldsetDefinition) : FieldsetDefinition :=
  { d with fields := d.fields.map (·.unlined) }

def SectionDefinition.unlined (d : SectionDefinition) : SectionDefinition :=
  { d with
    header := d.header.map (·.unlined)
    body := d.body.map (·.unlined)
    footer := d.footer.map (·.unlined) }

def Definition.unlined (d : Definition) : Definition :=
  { d with sections := d.sections.map (·.unlined) }

def FieldsetDefinition.lines (d : FieldsetDefinition) : List Nat := d.fields.map (·.line)

def SectionDefinition.lines (d : SectionDefinition) : List Nat :=
  d.header.flatMap (·.lines) ++ (d.body.flatMap (·.lines) ++ d.footer.flatMap (·.lines))

def Definition.lines (d : Definition) : List Nat := d.sections.flatMap (·.lines)

def Color.token : Color → Token
  | .named name => .word name.keyword
  | .code digits => .word (String.ofList (digits.toList.drop 1))

namespace Grammar.StyleBlock

def StyleOption.values : StyleOption → List Token
  | .format text | .font text => [quotedToken text]
  | .size points => [naturalToken points]
  | .align side => [.word side.keyword]
  | .valign side => [.word side.keyword]
  | .border tint line => (tint.map (·.token)).toList ++ [.word line.keyword]
  | .background tint | .color tint => [tint.token]
  | .bold | .italic | .underline | .strikeout | .unlocked | .hidden | .wrap | .shrink => []

def StyleOption.Written (option : StyleOption) (ts : List Token) : Prop :=
  ∃ values, values.Perm option.values ∧ ts = .word option.keyword :: values

def setOption (set : Bool) (option : StyleOption) : List StyleOption :=
  if set then [option] else []

end Grammar.StyleBlock

namespace Style

open StyleBlock (StyleOption setOption)

def options (s : Style) : List StyleOption :=
  (s.numFormat.map .format).toList ++ ((s.fontName.map .font).toList ++
    ((s.fontSize.map .size).toList ++ (setOption s.bold .bold ++ (setOption s.italic .italic ++
    (setOption s.underline .underline ++ (setOption s.strikeout .strikeout ++
    ((s.align.map .align).toList ++ ((s.valign.map .valign).toList ++
    ((s.border.map (.border s.borderColor)).toList ++ ((s.background.map .background).toList ++
    ((s.fontColor.map .color).toList ++ (setOption s.unlocked .unlocked ++
    (setOption s.hidden .hidden ++ (setOption s.wrap .wrap ++ setOption s.shrink .shrink))))))))))))))

def Written (s : Style) (ts : List Token) : Prop :=
  ∃ options more, options.Perm s.options ∧ Each StyleOption.Written options more ∧
    ts = .word "style" :: .exact s.id.toList :: more

end Style

def isNormalized (formula : String) : Bool :=
  match readFormula formula with
  | .ok value => value == formula
  | .error _ => false

def formulaToken (formula : String) : Token :=
  if isNormalized formula then .exact formula.toList else quotedToken formula

inductive FieldSpec.Written : FieldSpec → List Token → Prop where
  | extracted (extraction : Extraction) (left right : Int) :
    FieldSpec.Written (.extracted extraction left right)
      [.kind extraction.fieldType.keyword, integerToken left, integerToken right]
  | empty (count : Int) : FieldSpec.Written (.empty count) [.kind "empty", integerToken count]
  | emptyCell : FieldSpec.Written (.empty 1) [.kind "empty"]
  | constText (text : String) : FieldSpec.Written (.const (.text text)) [.kind "const", quotedToken text]
  | constInteger (value : Int) :
    FieldSpec.Written (.const (.number (.integer value))) [.kind "const", integerToken value]
  | function (formula : String) :
    FieldSpec.Written (.function formula) [.kind "function", formulaToken formula]

def labelTokens (sign : Token) (label : Option String) : List Token :=
  match label with
  | some text => [sign, .exact text.toList]
  | none => []

def FieldDefinition.Written (d : FieldDefinition) (ts : List Token) : Prop :=
  ∃ spec, d.spec.Written spec ∧
    ts = spec ++ (labelTokens (.word "as") d.name ++ labelTokens (.exact [':']) d.styleId)

def flagTokens (set : Bool) (name : String) : List Token := if set then [.word name] else []

def clauseTokens (name : String) (ts : List Token) : List Token :=
  if ts.isEmpty then [] else .word name :: ts

def FieldsetDefinition.WrittenSpecial (d : FieldsetDefinition) (ts : List Token) : Prop :=
  ∃ fields, Each FieldDefinition.Written d.fields fields ∧ ts = .word "fieldset" :: fields

def FieldsetDefinition.Written (d : FieldsetDefinition) (ts : List Token) : Prop :=
  ∃ flags fields,
    flags.Perm (flagTokens d.newRow "new_row" ++ flagTokens d.keepInRow "keep_in_row") ∧
    Each FieldDefinition.Written d.fields fields ∧
    ts = .word "fieldset" :: .word "include_filters" ::
      (listTokens d.includeFilters ++ (flags ++ fields))

def SectionDefinition.Written (d : SectionDefinition) (ts : List Token) : Prop :=
  ∃ flags header body footer,
    flags.Perm (flagTokens d.once "process_only_one_time" ++ flagTokens d.blankRow "blank_row") ∧
    Each FieldsetDefinition.WrittenSpecial d.header header ∧
    Each FieldsetDefinition.Written d.body body ∧
    Each FieldsetDefinition.WrittenSpecial d.footer footer ∧
    ts = .word "section" :: (flags ++ (clauseTokens "header" header ++
      (.word "body" :: (body ++ clauseTokens "footer" footer))))

namespace Definition

def Written (d : Definition) (ts : List Token) : Prop :=
  ∃ styles sections,
    Each Style.Written d.styles styles ∧ Each SectionDefinition.Written d.sections sections ∧
    ts = (d.description.map .description).toList ++
      (clauseTokens "encoding" (d.encoding.map fun e => .word e.label).toList ++
      (clauseTokens "columns_width" (d.columnWidths.map naturalToken) ++
      (clauseTokens "exclude_filters" (listTokens d.excludeFilters) ++ (styles ++ sections))))

/-- The text writes the definition in some layout, with its fields on the given lines. -/
inductive Prints (d : Definition) : List Char → List Nat → Prop where
  | intro {before w pad pad' g rest : List Char} {ts : List Token} {lines : List Nat}
    (hbefore : Blanks before) (hw : Text.lowerAll w = "title".toList)
    (hgap : d.title ≠ "" → pad ≠ []) (hpad : ∀ c ∈ pad ++ pad', c = ' ' ∨ c = '\t')
    (hg : Blanks g) (hline : BeginsLine g) (hts : d.Written ts)
    (h : Laid (before ++ (w ++ (pad ++ d.title.toList ++ pad')) ++ g) ts rest lines) :
    d.Prints (before ++ (w ++ (pad ++ d.title.toList ++ pad')) ++ (g ++ rest)) lines

end Definition

end ListingGrid
