import ListingGrid.Command.Printed

/-!
# The command

The command reads its words, does the task that they name, and ends with 0 if
nothing went wrong, with 1 if something did and with 2 if its words do not
follow the rules. The log goes to standard error, or to the end of a file.
-/

set_option autoImplicit false

namespace ListingGrid.Command

def versionText : String := "spool 0.1.0"

def helpText : String :=
  "Usage: spool [OPTIONS] <COMMAND>\n\nCommands: process, check, formula, help"

def usageText : String := "error: the arguments cannot be understood\n\n" ++ helpText ++ "\n"

structure Surroundings where
  store : Store
  logVariable : Option String
  clock : Clock

structure TaskResult where
  exitCode : Nat
  printed : List Printed
  errors : String
  events : List LogEvent
  store : Store

structure Outcome where
  exitCode : Nat
  printed : List Printed
  errors : String
  store : Store

def failedTask (store : Store) (before : List LogEvent) (chain : String) (pointer : Option String) :
    TaskResult :=
  ⟨1, [], "error: " ++ chain ++ "\n" ++ (match pointer with
    | some text => text ++ "\n"
    | none => ""),
    before ++ [.plain .error .command chain []], store⟩

def RunError.pointer? : RunError → Option String
  | .definition _ (.source cause) => some cause.pointer
  | _ => none

def failedRun (store : Store) (before : List LogEvent) (e : RunError) : TaskResult :=
  failedTask store before e.text (RunError.pointer? e)

def runOptions (arguments : ProcessArguments) : RunOptions where
  naming := {
    directory := arguments.outputDirectory
    format := arguments.format
    timeStamp := arguments.timeStamp
    keepExtension := arguments.keepExtension }
  render := { RenderOptions.default with sheetName := arguments.sheetName }

def completeEvent (result : RunResult) : LogEvent :=
  .plain .info .subcommands "process complete"
    [("listings", .count result.listings.length), ("failed", .count result.failures.length)]

def processTaskResult (arguments : ProcessArguments) (around : Surroundings) : TaskResult :=
  let loading := loadDefinitionEvents around.store arguments.definition
  match run around.store arguments.definition arguments.listings (runOptions arguments)
      around.clock with
  | .error e => failedRun around.store loading e
  | .ok result =>
    ⟨if result.hasErrors then 1 else 0, printRun arguments result, failureText result,
      loading ++ result.events ++ [completeEvent result], result.store⟩

def checkTaskResult (definition : Path) (around : Surroundings) : TaskResult :=
  let loading := loadDefinitionEvents around.store definition
  match loadDefinition around.store definition with
  | .error e => failedRun around.store loading e
  | .ok report => ⟨0, printReport report, "", loading, around.store⟩

def formulasOf (text : String) : List (String × Nat) :=
  ((Text.lines text.toList).map fun line => Text.trimmed (String.ofList line)).zipIdx.filter
    fun (formula, _) => !formula.isEmpty

def formulaEvent (formula : String) (index : Nat) : Option LogEvent :=
  match Grammar.readFormula formula with
  | .ok _ => none
  | .error e => some (.plain .warn .subcommands e.text [("line", .count (index + 1))])

def formulaTaskResult (file : Path) (around : Surroundings) : TaskResult :=
  match around.store.readText file with
  | .error cause => failedTask around.store [] ("read " ++ file.text ++ ": " ++ cause.message) none
  | .ok text =>
    let formulas := formulasOf text
    let events := formulas.filterMap fun (formula, index) => formulaEvent formula index
    ⟨if events.isEmpty then 0 else 1, formulas.flatMap fun (formula, _) => printFormula formula,
      "", events, around.store⟩

def taskResult (task : Task) (around : Surroundings) : TaskResult :=
  match task with
  | .process arguments => processTaskResult arguments around
  | .check definition => checkTaskResult definition around
  | .formula file => formulaTaskResult file around

/-- The filter of the log: the one of the environment, if there is one that
can be read and no verbosity was asked for. -/
def logFilter (log : LogSettings) (fromOutside : Option String) : LogFilter :=
  let override := if log.explicit then none else fromOutside.bind LogFilter.ofText?
  override.getD (.ofVerbosity log.verbosity)

def logText (log : LogSettings) (fromOutside : Option String) (events : List LogEvent) : String :=
  log.format.text log.ansi (logFilter log fromOutside) events

def perform (arguments : Arguments) (around : Surroundings) : Outcome :=
  let text (events : List LogEvent) := logText arguments.log around.logVariable events
  match arguments.log.file with
  | none =>
    let result := taskResult arguments.task around
    ⟨result.exitCode, result.printed, text result.events ++ result.errors, result.store⟩
  | some file =>
    match around.store.append file "" with
    | .error cause =>
      ⟨1, [], "error: failed to initialize logging: " ++ cause.message ++ "\n", around.store⟩
    | .ok store =>
      let result := taskResult arguments.task { around with store }
      let kept := match result.store.append file (text result.events) with
        | .ok store => store
        | .error _ => result.store
      ⟨result.exitCode, result.printed, result.errors, kept⟩

def execute (words : List String) (around : Surroundings) : Outcome :=
  match Arguments.ofWords words with
  | .ok arguments => perform arguments around
  | .error .usage => ⟨2, [], usageText, around.store⟩
  | .error .help => ⟨0, Printed.ofText helpText, "", around.store⟩
  | .error .version => ⟨0, [.line versionText], "", around.store⟩

end ListingGrid.Command
