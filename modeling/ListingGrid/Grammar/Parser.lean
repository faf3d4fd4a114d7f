import ListingGrid.Text.Ascii

/-!
# Parsers that remember where they failed

A parser reads from the front of a text and leaves the rest. A failure keeps
the text that was left where it arose, so its place is known, and comes in two
strengths: after an ordinary failure an alternative is tried, after a firm one
the whole reading ends. Of several failed alternatives the one that got
furthest is reported.
-/

set_option autoImplicit false

namespace ListingGrid.Grammar

inductive Reason where
  | expected (what : String)
  | char (c : Char)
  | message (text : String)
  | unexpected
  | ending
  deriving DecidableEq, Repr

structure Failure where
  rest : List Char
  reason : Reason
  deriving DecidableEq, Repr

namespace Failure

def describe (f : Failure) : String :=
  match f.reason with
  | .expected what => "expected " ++ what
  | .char c => "expected '" ++ String.singleton c ++ "'"
  | .message text => text
  | .ending => "unexpected input"
  | .unexpected => if f.rest.isEmpty then "unexpected end of input" else "unexpected input"

def further (earlier later : Failure) : Failure :=
  if later.rest.length ≤ earlier.rest.length then later else earlier

def isNamed (f : Failure) : Bool :=
  match f.reason with
  | .expected _ | .message _ => true
  | _ => false

def label (what : String) (input : List Char) (f : Failure) : Failure :=
  if !f.isNamed && f.rest.length == input.length then ⟨f.rest, .expected what⟩ else f

end Failure

inductive Result (α : Type) where
  | done (value : α) (rest : List Char)
  | fail (failure : Failure)
  | abort (failure : Failure)
  deriving Repr

def Parser (α : Type) : Type := List Char → Result α

namespace Parser

variable {α β γ : Type}

def pure (a : α) : Parser α := fun s => .done a s

def bind (p : Parser α) (f : α → Parser β) : Parser β := fun s =>
  match p s with
  | .done a rest => f a rest
  | .fail failure => .fail failure
  | .abort failure => .abort failure

instance : Monad Parser where
  pure := Parser.pure
  bind := Parser.bind

def map (f : α → β) (p : Parser α) : Parser β := fun s =>
  match p s with
  | .done a rest => .done (f a) rest
  | .fail failure => .fail failure
  | .abort failure => .abort failure

def failing (reason : Reason) : Parser α := fun s => .fail ⟨s, reason⟩

def or (p q : Parser α) : Parser α := fun s =>
  match p s with
  | .fail earlier =>
    match q s with
    | .fail later => .fail (earlier.further later)
    | result => result
  | result => result

def firstOf (p : Parser α) (others : List (Parser α)) : Parser α := others.foldl or p

def firmly (p : Parser α) : Parser α := fun s =>
  match p s with
  | .fail failure => .abort failure
  | result => result

def label (what : String) (p : Parser α) : Parser α := fun s =>
  match p s with
  | .fail failure => .fail (failure.label what s)
  | .abort failure => .abort (failure.label what s)
  | result => result

def optional (p : Parser α) : Parser (Option α) := fun s =>
  match p s with
  | .done a rest => .done (some a) rest
  | .fail _ => .done none s
  | .abort failure => .abort failure

def filterMap (p : Parser α) (f : α → Option β) : Parser β := fun s =>
  match p s with
  | .done a rest =>
    match f a with
    | some b => .done b rest
    | none => .fail ⟨s, .unexpected⟩
  | .fail failure => .fail failure
  | .abort failure => .abort failure

def foldMany (p : Parser α) (f : β → α → β) (acc : β) : Parser β := fun s =>
  match p s with
  | .done a rest =>
    if rest.length < s.length then foldMany p f (f acc a) rest
    else .fail ⟨s, .unexpected⟩
  | .fail _ => .done acc s
  | .abort failure => .abort failure
termination_by s => s.length

def many (p : Parser α) : Parser (List α) :=
  map List.reverse (foldMany p (fun items item => item :: items) [])

def many1 (p : Parser α) : Parser (List α) := do
  let first ← p
  let more ← many p
  return first :: more

def moreBy (separator : Parser γ) (p : Parser α) : Parser (List α) :=
  many (fun s =>
    match separator s with
    | .done _ rest => p rest
    | .fail failure => .fail failure
    | .abort failure => .abort failure)

def sepBy1 (separator : Parser γ) (p : Parser α) : Parser (List α) := do
  let first ← p
  let more ← moreBy separator p
  return first :: more

def sepBy (separator : Parser γ) (p : Parser α) : Parser (List α) :=
  map (fun items => items.getD []) (optional (sepBy1 separator p))

def satisfy (accepts : Char → Bool) : Parser Char := fun s =>
  match s with
  | c :: rest => if accepts c then .done c rest else .fail ⟨s, .unexpected⟩
  | [] => .fail ⟨s, .unexpected⟩

def char (c : Char) : Parser Char := fun s =>
  match s with
  | d :: rest => if d = c then .done c rest else .fail ⟨s, .char c⟩
  | [] => .fail ⟨s, .char c⟩

def oneOf (cs : List Char) : Parser Char := satisfy cs.contains

def tag (text : List Char) : Parser (List Char) := fun s =>
  if text.isPrefixOf s then .done text (s.drop text.length) else .fail ⟨s, .unexpected⟩

def kelvin : Char := '\u212a'

def sameLetter (c letter : Char) : Bool :=
  Text.lower c == Text.lower letter || (c == kelvin && Text.lower letter == 'k')

def splitBytes? : List Char → Nat → Option (List Char × List Char)
  | s, 0 => some ([], s)
  | [], _ + 1 => none
  | c :: rest, n + 1 =>
    if c.utf8Size ≤ n + 1 then
      (splitBytes? rest (n + 1 - c.utf8Size)).map fun (taken, left) => (c :: taken, left)
    else none

/-- The given ASCII text in any case; the result is what was read. Letters are
compared one by one as far as both texts go, and as many bytes are read as the
given text has. Where these bytes end inside a character (`shrin` and a Kelvin
sign for `shrink`), this fails as it does anywhere else, while a program that
cuts the text there stops. -/
def word (text : List Char) : Parser (List Char) := fun s =>
  match splitBytes? s text.length with
  | some (taken, rest) =>
    if (s.zip text).all fun (c, letter) => sameLetter c letter then .done taken rest
    else .fail ⟨s, .unexpected⟩
  | none => .fail ⟨s, .unexpected⟩

def takeWhile (accepts : Char → Bool) : Parser (List Char) := fun s =>
  .done (s.takeWhile accepts) (s.dropWhile accepts)

def takeWhile1 (accepts : Char → Bool) : Parser (List Char) := fun s =>
  if (s.takeWhile accepts).isEmpty then .fail ⟨s, .unexpected⟩
  else .done (s.takeWhile accepts) (s.dropWhile accepts)

def takeBetween (least most : Nat) (accepts : Char → Bool) : Parser (List Char) := fun s =>
  let run := (s.takeWhile accepts).take most
  if run.length < least then .fail ⟨s, .unexpected⟩ else .done run (s.drop run.length)

def notFollowedBy (accepts : Char → Bool) : Parser Unit := fun s =>
  match s with
  | c :: _ => if accepts c then .fail ⟨s, .unexpected⟩ else .done () s
  | [] => .done () s

def ending : Parser Unit := fun s =>
  if s.isEmpty then .done () s else .fail ⟨s, .ending⟩

end Parser

end ListingGrid.Grammar
