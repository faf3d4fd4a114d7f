import ListingGrid.Grammar.Parser

/-!
# Words shared by the grammars

Blanks and comments may stand in front of every token. A comment runs from a
hash to the end of the line; one that holds a carriage return before the line
feed that ends it is no comment. Keywords are whole words in any case.
-/

set_option autoImplicit false

namespace ListingGrid.Grammar

open ListingGrid.Grammar.Parser

def isBlank (c : Char) : Bool := c == ' ' || c == '\t' || c == '\r' || c == '\n'

def restOfLine : Parser (List Char) := fun s =>
  let line := s.takeWhile (fun c => c != '\r' && c != '\n')
  let rest := s.dropWhile (fun c => c != '\r' && c != '\n')
  match rest with
  | '\r' :: '\n' :: _ => .done line rest
  | '\r' :: _ => .fail ⟨s, .unexpected⟩
  | _ => .done line rest

def isComment (s : List Char) : Bool :=
  match restOfLine s with
  | .done _ _ => true
  | _ => false

def skipFrom : List Char → Bool → List Char
  | [], _ => []
  | c :: rest, inComment =>
    if inComment && c != '\r' && c != '\n' then skipFrom rest true
    else if isBlank c then skipFrom rest false
    else if c == '#' && isComment rest then skipFrom rest true
    else c :: rest

def skipBlank (s : List Char) : List Char := skipFrom s false

def blank : Parser Unit := fun s => .done () (skipBlank s)

def lexeme {α : Type} (p : Parser α) : Parser α := fun s => p (skipBlank s)

def keyword (name : String) : Parser Unit :=
  lexeme (label name (do
    let _ ← word name.toList
    notFollowedBy Text.isWordChar))

def identifier : Parser (List Char) := do
  let first ← satisfy fun c => Text.isLetter c || c == '_'
  let more ← takeWhile Text.isWordChar
  return first :: more

def digits : Parser (List Char) := takeWhile1 Text.isDigit

def fitsInt64 (n : Int) : Bool := -(Nat.pow 2 63 : Int) ≤ n && n < (Nat.pow 2 63 : Int)

/-- An integer of 64 bits, written with an optional minus. -/
def integer : Parser Int :=
  filterMap (do
    let sign ← optional (char '-')
    let run ← digits
    return (sign, run))
    fun (sign, run) =>
      let n : Int := if sign.isSome then -(Text.decimalValue run : Int) else Text.decimalValue run
      if fitsInt64 n then some n else none

def natural : Parser Nat :=
  filterMap digits fun run =>
    if Text.decimalValue run < Nat.pow 2 32 then some (Text.decimalValue run) else none

/-- The inside of a quoted text and what follows it. A doubled quote and a
character behind a backslash belong to the text, a line end does not. -/
def quotedBody : List Char → List Char × List Char
  | '"' :: '"' :: rest =>
    let (body, after) := quotedBody rest
    ('"' :: '"' :: body, after)
  | '\\' :: c :: rest =>
    let (body, after) := quotedBody rest
    ('\\' :: c :: body, after)
  | c :: rest =>
    if c = '"' ∨ c = '\\' ∨ c = '\r' ∨ c = '\n' then ([], c :: rest)
    else
      let (body, after) := quotedBody rest
      (c :: body, after)
  | [] => ([], [])

def quoted : Parser (List Char) := do
  let _ ← char '"'
  let body ← fun s => .done (quotedBody s).1 (quotedBody s).2
  let _ ← char '"'
  return body

def quotedList : Parser (List String) :=
  sepBy1 (lexeme (char ',')) (map String.ofList (lexeme quoted))

end ListingGrid.Grammar
