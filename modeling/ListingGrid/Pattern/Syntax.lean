import ListingGrid.Pattern.Build
import ListingGrid.Text.Cut
import ListingGrid.Unicode.Folding

/-!
# The text of patterns

Why a pattern is refused, the flags that hold while it is read, and the white
space and comments that verbose patterns may have between their parts.
-/

set_option autoImplicit false

namespace ListingGrid

inductive PatternError where
  | unclosedGroup
  | unopenedGroup
  | badGroupName
  | badFlags
  | lookAround
  | nothingToRepeat
  | badRepetition
  | badEscape
  | badClass
  | unknownProperty
  | notUtf8
  | unicodeNotAllowed
  | tooDeep
  | tooLarge
  deriving DecidableEq, Repr

namespace Pattern

structure Flags where
  caseInsensitive : Bool
  multiLine : Bool
  dotAll : Bool
  swapGreed : Bool
  unicode : Bool
  returns : Bool
  verbose : Bool
  deriving DecidableEq, Repr

def Flags.default : Flags := ⟨false, false, false, false, true, false, false⟩

def skipSpace (verbose : Bool) : List Char → Bool → List Char
  | [], _ => []
  | c :: rest, inComment =>
    if !verbose then c :: rest
    else if inComment then skipSpace verbose rest (c != '\n')
    else if Text.isSpace c then skipSpace verbose rest false
    else if c = '#' then skipSpace verbose rest true
    else c :: rest

def next (flags : Flags) (s : List Char) : List Char :=
  skipSpace flags.verbose (s.drop 1) false

/-- The next character after the first one that is not white space, where the
pattern is verbose. One `#` is skipped too; white space alone is not. -/
def peekSpace (verbose : Bool) (s : List Char) : Option Char :=
  if verbose then (go (s.drop 1) false).orElse fun _ => (s.drop 1).head? else (s.drop 1).head?
where
  go : List Char → Bool → Option Char
    | [], _ => none
    | c :: rest, inComment =>
      if Text.isSpace c then go rest inComment
      else if !inComment && c == '#' then go rest true
      else some c

def foldSet (flags : Flags) (set : CharSet) : CharSet :=
  if !flags.caseInsensitive then set
  else if flags.unicode then set.closeCase
  else set.closeAsciiCase

end Pattern

end ListingGrid
