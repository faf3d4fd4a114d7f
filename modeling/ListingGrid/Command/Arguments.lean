import ListingGrid.Command.Options
import ListingGrid.Files.Path
import ListingGrid.Log.Format
import ListingGrid.Output.Format

/-!
# Arguments of the command

The first word that is no option names what to do: process listings, check a
definition, or normalize formulas. What is given behind that word counts more
than what is given before it.
-/

set_option autoImplicit false

namespace ListingGrid.Command

structure ProcessArguments where
  definition : Path
  outputDirectory : Path
  format : OutputFormat
  timeStamp : Bool
  keepExtension : Bool
  sheetName : Option String
  listings : List Path
  deriving DecidableEq, Repr

inductive Task where
  | process (arguments : ProcessArguments)
  | check (definition : Path)
  | formula (file : Path)
  deriving DecidableEq, Repr

structure LogSettings where
  verbosity : Nat
  explicit : Bool
  format : LogFormat
  ansi : Bool
  file : Option Path
  deriving DecidableEq, Repr

structure Arguments where
  log : LogSettings
  task : Task
  deriving DecidableEq, Repr

def logLevelWords : List String := LogLevel.all.map (·.keyword)

def sharedOptions : List OptionRule :=
  [⟨.verbose, "verbose", some 'v', .noValue, true⟩,
    ⟨.quiet, "quiet", some 'q', .noValue, true⟩,
    ⟨.color, "color", none, .oneOf ["auto", "always", "never"], false⟩,
    ⟨.logLevel, "log-level", none, .oneOf logLevelWords, false⟩,
    ⟨.logFormat, "log-format", none, .oneOf ["pretty", "compact", "json"], false⟩,
    ⟨.logFile, "log-file", none, .path, false⟩,
    ⟨.help, "help", some 'h', .noValue, false⟩]

def versionOption : OptionRule := ⟨.version, "version", some 'V', .noValue, false⟩

def processOptions : List OptionRule :=
  [⟨.confFile, "conf-file", some 'c', .path, false⟩,
    ⟨.outputDir, "output-dir", some 'o', .path, false⟩,
    ⟨.format, "format", some 'f', .oneOf (OutputFormat.all.map (·.extension)), false⟩,
    ⟨.timeStamp, "time-stamp", some 't', .noValue, false⟩,
    ⟨.keepExtension, "keep-extension", some 'k', .noValue, false⟩,
    ⟨.sheetName, "sheet-name", none, .anyText, false⟩]

def commandRules : WordRules := ⟨versionOption :: sharedOptions, true, none⟩

def processRules : WordRules := ⟨sharedOptions ++ processOptions, false, none⟩

def fileRules : WordRules := ⟨sharedOptions, false, some 1⟩

def checkVerbosity (given : GivenWords) : Except Stop Unit :=
  if given.has .verbose && given.has .quiet then .error .usage else .ok ()

def processTask (given : GivenWords) : Except Stop Task :=
  match given.value? .confFile with
  | none => .error .usage
  | some definition =>
    if given.operands.isEmpty then .error .usage
    else
      .ok (.process {
        definition := .ofText definition
        outputDirectory := .ofText ((given.value? .outputDir).getD ".")
        format := ((given.value? .format).bind OutputFormat.ofText?).getD .xlsx
        timeStamp := given.has .timeStamp
        keepExtension := given.has .keepExtension
        sheetName := given.value? .sheetName
        listings := given.operands.map .ofText })

def fileTask (task : Path → Task) (given : GivenWords) : Except Stop Task :=
  match given.operands with
  | [file] => .ok (task (.ofText file))
  | _ => .error .usage

def readTask (rules : WordRules) (task : GivenWords → Except Stop Task) (words : List String) :
    Except Stop (GivenWords × Task) := do
  let given ← readWords rules .none none words
  checkVerbosity given
  return (given, ← task given)

def taskNames : List String := ["process", "check", "formula", "help"]

def readHelp : List String → Stop
  | [] => .help
  | [name] => if taskNames.contains name then .help else .usage
  | _ => .usage

def readNamed (name : String) (words : List String) : Except Stop (GivenWords × Task) :=
  match name with
  | "process" => readTask processRules processTask words
  | "check" => readTask fileRules (fileTask .check) words
  | "formula" => readTask fileRules (fileTask .formula) words
  | "help" => .error (readHelp words)
  | _ => .error .usage

def verbosityFor (above below : Nat) : Nat :=
  min (LogLevel.warn.verbosity + above - below) LogLevel.trace.verbosity

def logFormatOf : String → LogFormat
  | "compact" => .compact
  | "json" => .json
  | _ => .full

def logSettings (before behind : GivenWords) : LogSettings :=
  let value? (key : OptionKey) : Option String :=
    match behind.value? key with
    | some text => some text
    | none => before.value? key
  let count (key : OptionKey) : Nat :=
    if behind.has key then behind.count key else before.count key
  let level := (value? .logLevel).bind fun word => LogLevel.all.find? (·.keyword == word)
  { verbosity := match level with
      | some level => level.verbosity
      | none => verbosityFor (count .verbose) (count .quiet)
    explicit := level.isSome || 0 < count .verbose || 0 < count .quiet
    format := logFormatOf ((value? .logFormat).getD "")
    ansi := value? .color == some "always"
    file := (value? .logFile).map .ofText }

def Arguments.ofWords (words : List String) : Except Stop Arguments := do
  let before ← readWords commandRules .none none words
  match before.operands with
  | [name] =>
    let (behind, task) ← readNamed name before.rest
    checkVerbosity before
    return ⟨logSettings before behind, task⟩
  | _ => throw .usage

end ListingGrid.Command
