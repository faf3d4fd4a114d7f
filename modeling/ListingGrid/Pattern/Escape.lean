import ListingGrid.Pattern.Property
import ListingGrid.Pattern.Syntax
import ListingGrid.Text.Cut

/-!
# Escapes

What a backslash introduces: a character, a set of characters or a condition on
a position.
-/

set_option autoImplicit false

namespace ListingGrid.Pattern

inductive Escape where
  | literal (c : Char) (byte : Bool)
  | set (set : CharSet)
  | look (condition : Look)

def isMeta (c : Char) : Bool :=
  "\\.+*?()|[]\x7b\x7d^$#&-~".toList.contains c

/-- Every ASCII character may be escaped but letters, digits and angle
brackets, which have meanings of their own or are kept for later. -/
def isEscapable (c : Char) : Bool :=
  isMeta c ||
    (c.toNat < 128 && !Text.isAlphanumeric c && c != '<' && c != '>')

def charOf? (n : Nat) : Option Char :=
  if Nat.isValidChar n then some (Char.ofNat n) else none

def fixedHex (flags : Flags) :
    Nat → List Char → List Char → Except PatternError (Char × List Char)
  | 0, digits, s =>
    match charOf? (Text.hexadecimalValue digits.reverse) with
    | some c => .ok (c, s)
    | none => .error .badEscape
  | n + 1, digits, s =>
    match s with
    | c :: _ => if Text.isHexDigit c then fixedHex flags n (c :: digits) (next flags s)
      else .error .badEscape
    | [] => .error .badEscape

def bracedHex (flags : Flags) :
    Nat → List Char → List Char → Except PatternError (Char × List Char)
  | 0, _, _ => .error .badEscape
  | fuel + 1, digits, s =>
    match s with
    | '\x7d' :: _ =>
      if digits.isEmpty then .error .badEscape
      else
        match charOf? (Text.hexadecimalValue digits.reverse) with
        | some c => .ok (c, next flags s)
        | none => .error .badEscape
    | c :: _ => if Text.isHexDigit c then bracedHex flags fuel (c :: digits) (next flags s)
      else .error .badEscape
    | [] => .error .badEscape

def braced (flags : Flags) :
    Nat → List Char → List Char → Except PatternError (List Char × List Char)
  | 0, _, _ => .error .badEscape
  | fuel + 1, name, s =>
    match s with
    | '\x7d' :: rest => .ok (name.reverse, rest)
    | c :: _ => braced flags fuel (c :: name) (next flags s)
    | [] => .error .badEscape

/-- The set that the text between the braces of `\p` names, and whether the
characters outside it are meant. -/
def namedProperty? (text : List Char) : Option (CharSet × Bool) :=
  match Text.cutAround? ['!', '='] text with
  | some (name, value) => (CharSet.propertyValue? name value).map (·, true)
  | none =>
    match Text.cutAround? [':'] text with
    | some (name, value) => (CharSet.propertyValue? name value).map (·, false)
    | none =>
      match Text.cutAround? ['='] text with
      | some (name, value) => (CharSet.propertyValue? name value).map (·, false)
      | none => (CharSet.property? text).map (·, false)

def property (flags : Flags) (negated : Bool) (s : List Char) :
    Except PatternError (Escape × List Char) := do
  let (found, rest) ← match s with
    | [] => .error .badEscape
    | '\x7b' :: _ => do
      let (name, rest) ← braced flags (s.length + 1) [] (next flags s)
      pure (namedProperty? name, rest)
    | '\\' :: _ => .error .badEscape
    | c :: _ => pure ((CharSet.property? [c]).map (·, false), next flags s)
  if !flags.unicode then .error .unicodeNotAllowed
  else
    match found with
    | none => .error .unknownProperty
    | some (set, outside) =>
      let set := foldSet flags set
      .ok (.set (if negated != outside then set.complement else set), rest)

def boundaryNames : List (String × (Bool → Look)) :=
  [("start", .wordStart), ("end", .wordEnd), ("start-half", .wordStartHalf),
    ("end-half", .wordEndHalf)]

def isBoundaryChar (c : Char) : Bool := Text.isLetter c || c == '-'

def boundaryName (flags : Flags) : Nat → List Char → List Char → List Char × List Char
  | 0, name, s => (name.reverse, s)
  | fuel + 1, name, s =>
    match s with
    | c :: _ =>
      if isBoundaryChar c then boundaryName flags fuel (c :: name) (next flags s)
      else (name.reverse, s)
    | [] => (name.reverse, [])

def boundary (flags : Flags) (s : List Char) : Except PatternError (Escape × List Char) :=
  let plain : Escape := .look (.wordBoundary flags.unicode)
  match s with
  | '\x7b' :: _ =>
    match next flags s with
    | [] => .error .badEscape
    | c :: rest =>
      if !isBoundaryChar c then .ok (plain, s)
      else
        let (name, rest) := boundaryName flags (s.length + 1) [] (c :: rest)
        match rest with
        | '\x7d' :: rest =>
          match boundaryNames.find? fun (n, _) => n.toList == name with
          | some (_, condition) => .ok (.look (condition flags.unicode), rest)
          | none => .error .badEscape
        | _ => .error .badEscape
  | _ => .ok (plain, s)

def hexadecimal (flags : Flags) (digits : Nat) (s : List Char) :
    Except PatternError (Escape × List Char) := do
  match next flags s with
  | [] => .error .badEscape
  | '\x7b' :: rest =>
    let (c, rest) ← bracedHex flags (s.length + 1) [] (next flags ('\x7b' :: rest))
    pure (.literal c false, rest)
  | rest =>
    let (c, rest) ← fixedHex flags digits [] rest
    pure (.literal c (digits == 2), rest)

/-- A set of one of the letters `d`, `s` and `w`. Negated, it holds characters
beyond ASCII, which only patterns on characters may match. -/
def letterSet (flags : Flags) (set : Bool → CharSet) (negated : Bool) :
    Except PatternError Escape :=
  if flags.unicode then .ok (.set (if negated then (set true).complement else set true))
  else if negated then .error .notUtf8
  else .ok (.set (set false))

def escape (flags : Flags) (s : List Char) : Except PatternError (Escape × List Char) := do
  match s with
  | [] => .error .badEscape
  | c :: rest =>
    if Text.isDigit c then .error .badEscape
    else if c = 'x' then hexadecimal flags 2 s
    else if c = 'u' then hexadecimal flags 4 s
    else if c = 'U' then hexadecimal flags 8 s
    else if c = 'p' ∨ c = 'P' then property flags (c = 'P') (next flags s)
    else if c = 'd' ∨ c = 'D' then
      pure (← letterSet flags CharSet.digit (c = 'D'), rest)
    else if c = 's' ∨ c = 'S' then
      pure (← letterSet flags CharSet.space (c = 'S'), rest)
    else if c = 'w' ∨ c = 'W' then
      pure (← letterSet flags CharSet.word (c = 'W'), rest)
    else if isEscapable c then pure (.literal c false, rest)
    else
      match c with
      | 'a' => pure (.literal '\x07' false, rest)
      | 'f' => pure (.literal '\x0c' false, rest)
      | 't' => pure (.literal '\t' false, rest)
      | 'n' => pure (.literal '\n' false, rest)
      | 'r' => pure (.literal '\r' false, rest)
      | 'v' => pure (.literal '\x0b' false, rest)
      | 'A' => pure (.look .textStart, rest)
      | 'z' => pure (.look .textEnd, rest)
      | 'b' => boundary flags rest
      | 'B' => pure (.look (.noWordBoundary flags.unicode), rest)
      | '<' => pure (.look (.wordStart flags.unicode), rest)
      | '>' => pure (.look (.wordEnd flags.unicode), rest)
      | _ => .error .badEscape

end ListingGrid.Pattern
