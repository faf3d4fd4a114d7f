import ListingGrid.Number.Basic
import ListingGrid.Pattern.Reader

/-!
# Numeric formats

A format says how a listing prints numbers of one tag: which text is accepted
and which characters separate thousands and mark decimals. A text that is
accepted is rid of its thousands separators, its decimal mark becomes a point,
and what remains is read as a number of the format's kind.
-/

set_option autoImplicit false

namespace ListingGrid

inductive MismatchReason where
  | pattern
  | outOfRange
  deriving DecidableEq, Repr

/-- A text that does not follow the format of its field. -/
structure FormatMismatch where
  value : String
  tag : NumericTag
  pattern : String
  reason : MismatchReason
  deriving DecidableEq, Repr

def FormatMismatch.message (m : FormatMismatch) : String :=
  "value \"" ++ m.value ++ "\" of format " ++ m.tag.keyword ++ " " ++
    match m.reason with
    | .pattern => "does not match pattern " ++ m.pattern
    | .outOfRange => "is out of range for i64"

structure NumericFormat where
  tag : NumericTag
  pattern : String
  compiled : Pattern
  thousands : Option Char
  decimalMark : Option Char
  kind : NumericKind

inductive NumericFormatError where
  | separatorConflict (separator : Char)
  | invalidPattern (pattern : String)
  deriving DecidableEq, Repr

/-- In words, where `fault` says what is wrong with an invalid pattern. -/
def NumericFormatError.message (fault : String) : NumericFormatError → String
  | .separatorConflict separator =>
    "decimal separator '" ++ String.singleton separator ++ "' is the same as the thousands separator"
  | .invalidPattern pattern => "invalid numeric pattern \"" ++ pattern ++ "\": " ++ fault

namespace NumericFormat

def anchored (pattern : List Char) : List Char := "^(?:".toList ++ pattern ++ ")$".toList

/-- Fails when both separators are one character, or else when the pattern is
not valid. -/
def build (tag : NumericTag) (pattern : String) (thousands decimalMark : Option Char)
    (kind : NumericKind) : Except NumericFormatError NumericFormat :=
  match thousands, decimalMark with
  | some t, some d =>
    if t = d then .error (.separatorConflict d) else compile
  | _, _ => compile
where
  compile : Except NumericFormatError NumericFormat :=
    match Pattern.ofChars (anchored pattern.toList) with
    | .ok compiled => .ok ⟨tag, pattern, compiled, thousands, decimalMark, kind⟩
    | .error _ => .error (.invalidPattern pattern)

def withoutSeparator (separator : Option Char) (value : List Char) : List Char :=
  match separator with
  | some separator => value.filter (· != separator)
  | none => value

def withPoint (mark : Option Char) (value : List Char) : List Char :=
  match mark with
  | some mark => value.map fun c => if c = mark then '.' else c
  | none => value

def normalized (format : NumericFormat) (value : List Char) : List Char :=
  withPoint format.decimalMark (withoutSeparator format.thousands value)

def toNumber (format : NumericFormat) (value : String) : Except FormatMismatch Number :=
  let mismatch (reason : MismatchReason) : Except FormatMismatch Number :=
    .error ⟨value, format.tag, format.pattern, reason⟩
  let chars := value.toList
  if chars.isEmpty then .ok format.kind.zero
  else if !format.compiled.isMatch chars then mismatch .pattern
  else
    match Number.ofChars? format.kind (format.normalized chars) with
    | some number => .ok number
    | none => mismatch .outOfRange

end NumericFormat

end ListingGrid
