import ListingGrid.Log.Event
import ListingGrid.Number.Format
import ListingGrid.Text.Cut

/-!
# Directives of a log filter

A directive says how much is told, by which sources, and inside which span. It
is a verbosity alone, or a target, a span between brackets or both, with an
optional verbosity behind an equals sign. Behind the name of the span a field
may stand between braces, with an optional pattern for its value.
-/

set_option autoImplicit false

namespace ListingGrid

/-- What a directive asks of a field: that there is one of the name, and that
its whole value follows the pattern, if one is given. -/
structure FieldCondition where
  name : List Char
  pattern : Option (List Char)
  deriving DecidableEq, Repr

structure LogDirective where
  target : Option (List Char)
  span : Option (List Char)
  field : Option FieldCondition
  verbosity : Nat
  deriving DecidableEq, Repr

namespace FieldCondition

/-- Whether a text is a truth value or a number. Such a text is no pattern, and
no value that is kept as a text is equal to it. -/
def isPlainValue (text : List Char) : Bool :=
  text == "true".toList || text == "false".toList || (Double.ofChars? text).isSome

def isValue (text : List Char) : Bool := isPlainValue text || (Pattern.ofChars text).toOption.isSome

def ofChars? (text : List Char) : Option FieldCondition :=
  if text.isEmpty then none
  else
    let (name, value) := Text.cutAt (· == '=') text
    match value.map fun value => (Text.cutAt (· == '=') value).1 with
    | none => some ⟨name, none⟩
    | some pattern => if isValue pattern then some ⟨name, some pattern⟩ else none

def holdsFor (condition : FieldCondition) (value : String) : Bool :=
  match condition.pattern with
  | none => true
  | some text =>
    !isPlainValue text &&
      match Pattern.ofChars (NumericFormat.anchored text) with
      | .ok pattern => pattern.isMatch value.toList
      | .error _ => false

end FieldCondition

namespace LogDirective

def everything : Nat := 5

def keywords : List (List Char × Nat) :=
  ("off".toList, 0) :: LogLevel.all.map fun level => (level.keyword.toList, level.verbosity)

def verbosity? (text : List Char) : Option Nat :=
  let digits := match text with
    | '+' :: rest => rest
    | _ => text
  if text.isEmpty then some LogLevel.error.verbosity
  else if !digits.isEmpty && digits.all Text.isDigit then
    let n := Text.decimalValue digits
    if n ≤ everything then some n else none
  else (keywords.find? fun (word, _) => Text.sameWord word text).map (·.2)

def level? (text : List Char) : Option Nat :=
  if text.isEmpty then some everything else verbosity? text

def ofTarget (target : List Char) : LogDirective := ⟨some target, none, none, everything⟩

def begins (c : Char) : Bool :=
  ['-', ':', '_'].contains c || CharSet.alphanumeric.contains c

def withLevel? (d : LogDirective) (rest : List Char) : Option LogDirective :=
  match rest with
  | [] => some d
  | '=' :: text => (level? text).map fun n => { d with verbosity := n }
  | _ => none

/-- Reads a span and what stands behind it. A span without a name is one that
only its field is asked of; without a field, it is one whose name is empty. -/
def withSpan? (target : Option (List Char)) (text : List Char) : Option LogDirective :=
  let name := text.takeWhile fun c => c != ']' && c != '\x7b'
  match text.drop name.length with
  | ']' :: rest => withLevel? ⟨target, some name, none, everything⟩ rest
  | '\x7b' :: rest =>
    let inside := rest.takeWhile (· != '\x7d')
    match FieldCondition.ofChars? inside, rest.drop inside.length with
    | some field, '\x7d' :: ']' :: rest =>
      withLevel? ⟨target, if name.isEmpty then none else some name, some field, everything⟩ rest
    | _, _ => none
  | _ => none

def read? (text : List Char) : Option LogDirective :=
  match text with
  | '[' :: rest => withSpan? none rest
  | c :: _ =>
    if begins c then
      let target := text.takeWhile fun c => c != '=' && c != '['
      match text.drop target.length with
      | [] =>
        match verbosity? text with
        | some n => some ⟨none, none, none, n⟩
        | none => some (ofTarget text)
      | '[' :: rest => withSpan? (some target) rest
      | rest => withLevel? (ofTarget target) rest
    else none
  | [] => none

/-- Reads a directive. Blanks in front of it are taken for the beginning of its
target, which no source has, and then no verbosity may follow. -/
def ofChars? (text : List Char) : Option LogDirective :=
  let body := Text.trimStart text
  if body.length = text.length then read? text
  else if body.contains '=' then none
  else (read? body).map fun _ => ofTarget text

def listOfChars? (text : List Char) : Option (List LogDirective) :=
  ((text.splitOn ',').filter (!·.isEmpty)).mapM ofChars?

def appliesTo (d : LogDirective) (source : LogSource) : Bool :=
  match d.target with
  | some target => target.isPrefixOf source.name.toList
  | none => true

end LogDirective

end ListingGrid
