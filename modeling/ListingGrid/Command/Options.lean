/-!
# Options of the command line

Options are spelled with two dashes and a name or with one dash and a letter.
Letters may share a dash; the value of an option stands behind an equals sign,
right behind the letter, or in the next word. Two dashes alone end the options.
Some options may be given with any command, before its name or after it.
-/

set_option autoImplicit false

namespace ListingGrid.Command

inductive OptionKey where
  | verbose
  | quiet
  | color
  | logLevel
  | logFormat
  | logFile
  | confFile
  | outputDir
  | format
  | timeStamp
  | keepExtension
  | sheetName
  | help
  | version
  deriving DecidableEq, Repr

inductive ValueRule where
  | noValue
  | anyText
  | path
  | oneOf (words : List String)
  deriving DecidableEq, Repr

structure OptionRule where
  key : OptionKey
  name : String
  letter : Option Char
  value : ValueRule
  repeatable : Bool
  deriving DecidableEq, Repr

inductive Stop where
  | usage
  | help
  | version
  deriving DecidableEq, Repr

namespace ValueRule

def takesValue (rule : ValueRule) : Bool := rule != .noValue

def admits : ValueRule → String → Bool
  | .noValue, _ => false
  | .anyText, _ => true
  | .path, text => !text.isEmpty
  | .oneOf words, text => words.contains text

end ValueRule

structure WordRules where
  options : List OptionRule
  /-- Operands are commands, and the words behind the first one are its own. -/
  leadsOn : Bool
  maxOperands : Option Nat
  deriving DecidableEq, Repr

structure GivenWords where
  options : List (OptionKey × String)
  operands : List String
  rest : List String
  deriving DecidableEq, Repr

namespace GivenWords

def none : GivenWords := ⟨[], [], []⟩

def has (given : GivenWords) (key : OptionKey) : Bool := given.options.any (·.1 == key)

def value? (given : GivenWords) (key : OptionKey) : Option String := given.options.lookup key

def count (given : GivenWords) (key : OptionKey) : Nat := given.options.countP (·.1 == key)

def add (given : GivenWords) (rule : OptionRule) (value : String) : Except Stop GivenWords :=
  match rule.key with
  | .help => .error .help
  | .version => .error .version
  | key =>
    if !rule.repeatable && given.has key then .error .usage
    else if rule.value.takesValue && !rule.value.admits value then .error .usage
    else .ok { given with options := given.options ++ [(key, value)] }

def addOperand (given : GivenWords) (rules : WordRules) (word : String) :
    Except Stop GivenWords :=
  let full := match rules.maxOperands with
    | some limit => limit ≤ given.operands.length
    | Option.none => false
  if full || word.isEmpty then .error .usage
  else .ok { given with operands := given.operands ++ [word] }

end GivenWords

structure Reached where
  given : GivenWords
  pending : Option OptionRule

def readName (rules : WordRules) (given : GivenWords) (text : List Char) : Except Stop Reached :=
  let name := String.ofList (text.takeWhile (· != '='))
  match rules.options.find? (·.name == name), text.dropWhile (· != '=') with
  | none, _ => .error .usage
  | some rule, [] =>
    if rule.value.takesValue then .ok ⟨given, some rule⟩
    else (given.add rule "").map (⟨·, none⟩)
  | some rule, _ :: value =>
    if rule.value.takesValue then (given.add rule (String.ofList value)).map (⟨·, none⟩)
    else .error .usage

def readLetters (rules : WordRules) (given : GivenWords) : List Char → Except Stop Reached
  | [] => .ok ⟨given, none⟩
  | c :: rest =>
    match rules.options.find? (·.letter == some c) with
    | none => .error .usage
    | some rule =>
      if rule.value.takesValue then
        match rest with
        | [] => .ok ⟨given, some rule⟩
        | '=' :: value | value => (given.add rule (String.ofList value)).map (⟨·, none⟩)
      else
        match given.add rule "" with
        | .error stop => .error stop
        | .ok given => readLetters rules given rest

def isOptionWord (word : String) : Bool := word.startsWith "-" && word != "-"

def readOperands (rules : WordRules) (given : GivenWords) : List String → Except Stop GivenWords
  | [] => .ok given
  | word :: more =>
    match given.addOperand rules word with
    | .error stop => .error stop
    | .ok given => if rules.leadsOn then .error .usage else readOperands rules given more

def readWords (rules : WordRules) (given : GivenWords) (pending : Option OptionRule) :
    List String → Except Stop GivenWords
  | [] => if pending.isSome then .error .usage else .ok given
  | word :: more =>
    match pending with
    | some rule =>
      if isOptionWord word then .error .usage
      else
        match given.add rule word with
        | .error stop => .error stop
        | .ok given => readWords rules given none more
    | none =>
      if word == "--" then readOperands rules given more
      else if word.startsWith "--" then
        match readName rules given (word.toList.drop 2) with
        | .error stop => .error stop
        | .ok reached => readWords rules reached.given reached.pending more
      else if isOptionWord word then
        match readLetters rules given (word.toList.drop 1) with
        | .error stop => .error stop
        | .ok reached => readWords rules reached.given reached.pending more
      else
        match given.addOperand rules word with
        | .error stop => .error stop
        | .ok given =>
          if rules.leadsOn then .ok { given with rest := more }
          else readWords rules given none more

end ListingGrid.Command
