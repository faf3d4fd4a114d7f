import ListingGrid.Log.Filter
import ListingGrid.Output.Json

/-!
# Lines of a log

An event is one line: the level, the listing that it tells of, the message and
the fields. In colors the level has a color of its own, names of fields are
slanted and their equals signs faint. Characters of a message that could steer
a terminal are written as codes.
-/

set_option autoImplicit false

namespace ListingGrid

inductive LogFormat where
  | full
  | compact
  | json
  deriving DecidableEq, Repr

namespace LogFormat

def levelText : LogLevel → String
  | .error => "ERROR"
  | .warn => " WARN"
  | .info => " INFO"
  | .debug => "DEBUG"
  | .trace => "TRACE"

def levelColor : LogLevel → String
  | .error => "31"
  | .warn => "33"
  | .info => "32"
  | .debug => "34"
  | .trace => "35"

def painted (ansi : Bool) (code text : String) : String :=
  if ansi then "\x1b[" ++ code ++ "m" ++ text ++ "\x1b[0m" else text

def boldCode : String := "1"

def faintCode : String := "2"

def slantedCode : String := "3"

def steers (c : Char) : Bool :=
  ['\x1b', '\x07', '\x08', '\x0c', '\x7f'].contains c || (0x80 ≤ c.toNat && c.toNat ≤ 0x9f)

def escapeChar (c : Char) : List Char :=
  if !steers c then [c]
  else
    let digits := Text.hexadecimalDigits c.toNat
    if c.toNat < 0x80 then '\\' :: 'x' :: List.replicate (2 - digits.length) '0' ++ digits
    else '\\' :: 'u' :: '\x7b' :: digits ++ ['\x7d']

def escape (s : String) : String := String.ofList (s.toList.flatMap escapeChar)

def fieldText (ansi : Bool) (name : String) (value : LogValue) : String :=
  painted ansi slantedCode name ++ painted ansi faintCode "=" ++ value.display

def bodyText (ansi : Bool) (event : LogEvent) : String :=
  " ".intercalate (escape event.message ::
    event.fields.map fun (name, value) => fieldText ansi name value)

def spanName : String := "listing"

def spanFields (ansi : Bool) (listing : String) : String :=
  fieldText ansi "input" (.shown listing)

def fullSpan (ansi : Bool) (listing : String) : String :=
  painted ansi boldCode spanName ++ painted ansi boldCode "\x7b" ++ spanFields ansi listing ++
    painted ansi boldCode "\x7d" ++ painted ansi faintCode ":" ++ " "

def fullLine (ansi : Bool) (span : Option String) (event : LogEvent) : String :=
  (match span with
    | some listing => fullSpan ansi listing
    | none => "") ++ bodyText ansi event

def compactLine (ansi : Bool) (span : Option String) (event : LogEvent) : String :=
  match span with
  | some listing =>
    painted ansi boldCode spanName ++ ": " ++ bodyText ansi event ++ " " ++
      painted ansi faintCode (spanFields ansi listing)
  | none => bodyText ansi event

def valueRendered : LogValue → Json.Rendered
  | .shown s | .text s => Json.text s
  | .count n => Json.natural n

def jsonLine (span : Option String) (event : LogEvent) : String :=
  let object := [("level", Json.text (Text.trimmed (levelText event.level))),
    ("fields", Json.object (("message", Json.text event.message) ::
      event.fields.map fun (name, value) => (name, valueRendered value)))]
  let span := span.toList.map fun listing =>
    ("span", Json.object [("input", Json.text listing), ("name", Json.text spanName)])
  String.ofList (Json.object (object ++ span) none)

/-- The line of an event, in or outside the span of a listing. -/
def line (format : LogFormat) (ansi : Bool) (span : Option String) (event : LogEvent) : String :=
  let level := painted ansi (levelColor event.level) (levelText event.level) ++ " "
  match format with
  | .full => level ++ fullLine ansi span event
  | .compact => level ++ compactLine ansi span event
  | .json => jsonLine span event

/-- The text of a log: the events that pass a filter, each on a line. -/
def text (format : LogFormat) (ansi : Bool) (filter : LogFilter) (events : List LogEvent) :
    String :=
  String.join ((events.filter filter.passes).map fun event =>
    format.line ansi (if filter.keepsSpan then event.listing else none) event ++ "\n")

end LogFormat

end ListingGrid
