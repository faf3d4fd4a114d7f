import ListingGrid.Text.Quoted

/-!
# Events of a log

An event has a level, the part of the program that it comes from, a message
and fields. Events that tell of one listing name it.
-/

set_option autoImplicit false

namespace ListingGrid

inductive LogLevel where
  | error
  | warn
  | info
  | debug
  | trace
  deriving DecidableEq, Repr

namespace LogLevel

def all : List LogLevel := [.error, .warn, .info, .debug, .trace]

def keyword : LogLevel → String
  | .error => "error"
  | .warn => "warn"
  | .info => "info"
  | .debug => "debug"
  | .trace => "trace"

def verbosity : LogLevel → Nat
  | .error => 1
  | .warn => 2
  | .info => 3
  | .debug => 4
  | .trace => 5

end LogLevel

inductive LogValue where
  | shown (text : String)
  | text (text : String)
  | count (n : Nat)
  deriving DecidableEq, Repr

def LogValue.display : LogValue → String
  | .shown s => s
  | .text s => Text.quoted s
  | .count n => Text.naturalText n

inductive LogSource where
  | command
  | subcommands
  | run
  | report
  | layout
  | listing
  | definition
  | output
  | sheet
  deriving DecidableEq, Repr

/-- The name by which filters select the events of a part. -/
def LogSource.name : LogSource → String
  | .command => "spool"
  | .subcommands => "spool::commands"
  | .run => "spool_cli::pipeline"
  | .report => "spool_engine::report"
  | .layout => "spool_engine::layout"
  | .listing => "spool_engine::listing"
  | .definition => "spool_grammar::report"
  | .output => "spool_output"
  | .sheet => "spool_output::xlsx_writer"

structure LogEvent where
  level : LogLevel
  source : LogSource
  message : String
  fields : List (String × LogValue)
  listing : Option String
  deriving DecidableEq, Repr

namespace LogEvent

def plain (level : LogLevel) (source : LogSource) (message : String)
    (fields : List (String × LogValue)) : LogEvent :=
  ⟨level, source, message, fields, none⟩

def within (listing : String) (event : LogEvent) : LogEvent :=
  { event with listing := some listing }

end LogEvent

end ListingGrid
