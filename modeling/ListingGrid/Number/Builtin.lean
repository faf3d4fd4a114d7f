import ListingGrid.Number.Format

/-!
# The formats of the numeric tags

Each tag has one format. Its pattern is given twice, as text and as what the
text stands for; `ofChars_patternText` says that they agree. The digits are
those of ASCII.
-/

set_option autoImplicit false

namespace ListingGrid.NumericTag

def thousands : NumericTag → Option Char
  | .integerC | .floatCD | .decimalCD => some ','
  | .integerD | .floatDC | .decimalDC => some '.'
  | _ => none

def decimalMark : NumericTag → Option Char
  | .float | .floatCD | .decimal | .decimalCD => some '.'
  | .floatC | .floatDC | .decimalC | .decimalDC => some ','
  | .integer | .integerC | .integerD => none

def separatorText (c : Char) : String := if c = '.' then "\\." else String.singleton c

/-- The text of a tag's pattern: an optional minus, digits or groups of three
digits, and an optional fraction. -/
def patternText (tag : NumericTag) : String :=
  let whole := match tag.thousands with
    | none => "-?[0-9]+"
    | some c => "-?[0-9]\x7b1,3\x7d(?:" ++ separatorText c ++ "[0-9]\x7b3\x7d)*"
  let fraction := match tag.decimalMark with
    | none => ""
    | some c => "(?:" ++ separatorText c ++ "[0-9]+)?"
  whole ++ fraction

def digit : Pattern := .chars (.range '0'.toNat '9'.toNat)

def digits (least : Nat) (most : Option Nat) : Pattern := .repeated digit least most true

def optional (p : Pattern) : Pattern := .repeated p 0 (some 1) true

def wholeParts (separator : Option Char) : List Pattern :=
  match separator with
  | none => [digits 1 none]
  | some c =>
    [digits 1 (some 3),
      .repeated (.seq (.literal [c]) (digits 3 (some 3))) 0 none true]

def fractionParts (mark : Option Char) : List Pattern :=
  match mark with
  | none => []
  | some c => [optional (.seq (.literal [c]) (digits 1 none))]

def compiled (tag : NumericTag) : Pattern :=
  .inOrder ([.look .textStart, optional (.literal ['-'])] ++ wholeParts tag.thousands ++
    fractionParts tag.decimalMark ++ [.look .textEnd])

theorem ofChars_patternText (tag : NumericTag) :
    Pattern.ofChars (NumericFormat.anchored tag.patternText.toList) = .ok tag.compiled := by
  cases tag <;> rfl

def format (tag : NumericTag) : NumericFormat :=
  ⟨tag, tag.patternText, tag.compiled, tag.thousands, tag.decimalMark, tag.kind⟩

def registry : Except NumericFormatError (List NumericFormat) :=
  all.mapM fun tag =>
    NumericFormat.build tag tag.patternText tag.thousands tag.decimalMark tag.kind

theorem build_eq_format (tag : NumericTag) :
    NumericFormat.build tag tag.patternText tag.thousands tag.decimalMark tag.kind =
      .ok tag.format := by
  have hcompile : NumericFormat.build.compile tag tag.patternText tag.thousands tag.decimalMark
      tag.kind = .ok tag.format := by
    simp only [NumericFormat.build.compile, ofChars_patternText, format]
  cases tag <;> exact hcompile

/-- The built-in formats are valid, and each tag has one of its own. -/
theorem registry_find (tag : NumericTag) :
    ∃ formats, registry = .ok formats ∧ formats.find? (·.tag == tag) = some tag.format := by
  refine ⟨all.map format, ?_, ?_⟩
  · simp only [registry, build_eq_format]
    rfl
  · cases tag <;> rfl

/-- Converts trimmed text in the format of a tag. -/
def toNumber (tag : NumericTag) (value : String) : Except FormatMismatch Number :=
  tag.format.toNumber value

end ListingGrid.NumericTag
