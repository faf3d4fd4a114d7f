import ListingGrid.Log.Directive

/-!
# Log filters

A filter is a list of directives. Those without a span are rules for events by
their source and their fields; of the rules that apply the most specific one
decides. Those with a span let everything pass up to their verbosity while the
span lasts, whatever the rules say.
-/

set_option autoImplicit false

namespace ListingGrid

structure LogRule where
  target : Option (List Char)
  field : Option (List Char)
  verbosity : Nat
  deriving DecidableEq, Repr

namespace LogRule

def ofDirective? (d : LogDirective) : Option LogRule :=
  match d.span, d.field with
  | none, none => some ⟨d.target, none, d.verbosity⟩
  | none, some ⟨name, none⟩ => some ⟨d.target, some name, d.verbosity⟩
  | _, _ => none

def appliesTo (r : LogRule) (source : LogSource) : Bool :=
  match r.target with
  | some target => target.isPrefixOf source.name.toList
  | none => true

def admits (r : LogRule) (event : LogEvent) : Bool :=
  r.appliesTo event.source &&
    match r.field with
    | some name => name == "message".toList || event.fields.any (·.1.toList == name)
    | none => true

def width (r : LogRule) : Nat :=
  match r.target with
  | some target => target.length + 1
  | none => 0

/-- Rules with a longer target come first, and of equally long ones those that
ask for a field, in the descending order of its name. -/
def isBefore (a b : LogRule) : Bool :=
  if a.width = b.width then
    match a.field, b.field with
    | some a, some b => b < a
    | some _, none => true
    | none, _ => false
  else b.width < a.width

def insertInto (r : LogRule) : List LogRule → List LogRule
  | [] => [r]
  | other :: more =>
    if other.target = r.target ∧ other.field = r.field then r :: more
    else if r.isBefore other then r :: other :: more
    else other :: insertInto r more

end LogRule

structure LogFilter where
  rules : List LogRule
  spans : List LogDirective
  deriving DecidableEq, Repr

namespace LogDirective

def asksForSpan (d : LogDirective) : Bool := d.span.isSome || d.field.isSome

def replaceIn (d : LogDirective) (others : List LogDirective) : List LogDirective :=
  d :: others.filter fun other =>
    !(other.target = d.target && other.span = d.span && other.field = d.field)

def asksForListing (d : LogDirective) : Bool :=
  d.appliesTo .run &&
    (match d.span with
      | some name => name == "listing".toList
      | none => true) &&
    match d.field with
    | some field => field.name == "input".toList
    | none => true

def holdsFor (d : LogDirective) (listing : String) : Bool :=
  d.asksForListing &&
    match d.field with
    | some field => field.holdsFor listing
    | none => true

def asksForValue (d : LogDirective) : Bool :=
  match d.field with
  | some field => field.pattern.isSome
  | none => false

end LogDirective

namespace LogFilter

def ofDirectives (directives : List LogDirective) : LogFilter :=
  let spans := directives.filter (·.asksForSpan)
  let rules := (directives.filter (!·.asksForSpan) ++ spans).filterMap LogRule.ofDirective?
  ⟨rules.foldl (fun others r => r.insertInto others) [],
    spans.foldl (fun others d => d.replaceIn others) []⟩

def ofText? (text : String) : Option LogFilter :=
  (LogDirective.listOfChars? text.toList).map fun directives =>
    if directives.isEmpty then ofDirectives [⟨none, none, none, LogLevel.error.verbosity⟩]
    else ofDirectives directives

def ownTargets : List String :=
  ["spool_cli", "spool_engine", "spool_grammar", "spool_model", "spool_output"]

def ofVerbosity (n : Nat) : LogFilter :=
  ofDirectives (⟨none, none, none, min n LogLevel.warn.verbosity⟩ ::
    ownTargets.map fun target => { LogDirective.ofTarget target.toList with verbosity := n })

/-- The most that the filter may tell at all. A value is known only when the
span is there, so asking for one asks for everything. -/
def bound (f : LogFilter) : Nat :=
  if f.spans.any (·.asksForValue) then LogDirective.everything
  else max (f.rules.foldl (fun n r => max n r.verbosity) 0)
    (f.spans.foldl (fun n d => max n d.verbosity) 0)

def reaches (rules : List LogRule) (level : LogLevel) : Bool :=
  match rules with
  | r :: _ => level.verbosity ≤ r.verbosity
  | [] => false

/-- Whether the span of a listing is kept. Rules for fields of events hold for
spans whatever their fields. -/
def keepsSpan (f : LogFilter) : Bool :=
  LogLevel.info.verbosity ≤ f.bound &&
    (f.spans.any (·.asksForListing) || reaches (f.rules.filter (·.appliesTo .run)) .info)

def passesInSpan (f : LogFilter) (event : LogEvent) : Bool :=
  match event.listing with
  | some listing =>
    f.keepsSpan &&
      f.spans.any fun d => d.holdsFor listing && event.level.verbosity ≤ d.verbosity
  | none => false

def passes (f : LogFilter) (event : LogEvent) : Bool :=
  f.passesInSpan event || reaches (f.rules.filter (·.admits event)) event.level

end LogFilter

end ListingGrid
