import ListingGrid.Pattern.Automaton
import ListingGrid.Pattern.Bracket

/-!
# Reading patterns

A pattern is read from left to right. The state of the reader holds the text
still to read, the flags that hold from here to the end of the open group, and
the groups and group names already used. Each piece of the pattern comes with
the depth of its nesting, which is limited, as is the size of the automaton of
the whole.
-/

set_option autoImplicit false

namespace ListingGrid.Pattern

structure Piece where
  pattern : Pattern
  depth : Nat
  repeatable : Bool

structure State where
  rest : List Char
  flags : Flags
  groups : Nat
  names : List (List Char)

def greatestDepth : Nat := 250

def isNameChar (first : Bool) (c : Char) : Bool :=
  if first then c == '_' || CharSet.alphabetic.contains c
  else c == '_' || c == '.' || c == '[' || c == ']' || CharSet.alphanumeric.contains c

def groupName (s : List Char) : Except PatternError (List Char × List Char) :=
  let name := s.takeWhile (· != '>')
  match s.dropWhile (· != '>') with
  | [] => .error .badGroupName
  | _ :: rest =>
    match name with
    | [] => .error .badGroupName
    | c :: more =>
      if isNameChar true c && more.all (isNameChar false) then .ok (name, rest)
      else .error .badGroupName

def setFlag (flags : Flags) (value : Bool) : Char → Option Flags
  | 'i' => some { flags with caseInsensitive := value }
  | 'm' => some { flags with multiLine := value }
  | 's' => some { flags with dotAll := value }
  | 'U' => some { flags with swapGreed := value }
  | 'u' => some { flags with unicode := value }
  | 'R' => some { flags with returns := value }
  | 'x' => some { flags with verbose := value }
  | _ => none

/-- Reads flags up to a colon or a closing parenthesis, each at most once, with
at most one hyphen in front of those that are turned off. -/
def flagList (flags : Flags) (seen : List Char) : List Char →
    Except PatternError (Flags × List Char × List Char)
  | [] => .error .badFlags
  | c :: rest =>
    if c = ':' ∨ c = ')' then
      if seen.head? = some '-' then .error .badFlags else .ok (flags, seen, c :: rest)
    else if seen.contains c then .error .badFlags
    else if c = '-' then flagList flags (c :: seen) rest
    else
      match setFlag flags (!seen.contains '-') c with
      | some flags => flagList flags (c :: seen) rest
      | none => .error .badFlags

inductive Opening where
  | flags (flags : Flags) (rest : List Char)
  | group (flags : Flags) (name : Option (List Char)) (captures : Bool) (rest : List Char)

def opening (flags : Flags) (s : List Char) : Except PatternError Opening := do
  let s := skipSpace flags.verbose s false
  match s with
  | '?' :: '=' :: _ | '?' :: '!' :: _ | '?' :: '<' :: '=' :: _ | '?' :: '<' :: '!' :: _ =>
    .error .lookAround
  | '?' :: 'P' :: '<' :: rest | '?' :: '<' :: rest =>
    let (name, rest) ← groupName rest
    return .group flags (some name) true rest
  | '?' :: [] => .error .unclosedGroup
  | '?' :: rest =>
    let (changed, seen, rest) ← flagList flags [] rest
    match rest with
    | ')' :: after => if seen.isEmpty then .error .nothingToRepeat else return .flags changed after
    | _ => return .group changed none false (rest.drop 1)
  | _ => return .group flags none true s

def count (flags : Flags) (s : List Char) : Option (Option Nat) × List Char :=
  let s := s.dropWhile Text.isSpace
  let (digits, s) := digitsFrom s.length [] s
  let s := s.dropWhile Text.isSpace
  let s := skipSpace flags.verbose s false
  if digits.isEmpty then (none, s)
  else
    let n := Text.decimalValue digits
    (some (if n < Nat.pow 2 32 then some n else none), s)
where
  digitsFrom : Nat → List Char → List Char → List Char × List Char
    | 0, digits, s => (digits.reverse, s)
    | fuel + 1, digits, s =>
      match s with
      | c :: _ =>
        if Text.isDigit c then digitsFrom fuel (c :: digits) (next flags s)
        else (digits.reverse, s)
      | [] => (digits.reverse, [])

structure Bounds where
  least : Nat
  most : Option Nat

def repetition (flags : Flags) (s : List Char) : Except PatternError (Bounds × List Char) := do
  let s := next flags s
  if s.isEmpty then .error .badRepetition
  else
    let (least, s) := count flags s
    let (range, s) ← match s with
      | ',' :: _ =>
        match next flags s with
        | '\x7d' :: rest =>
          match least with
          | some (some n) => pure ((⟨n, none⟩ : Bounds), '\x7d' :: rest)
          | _ => .error .badRepetition
        | [] => .error .badRepetition
        | s =>
          let (most, s) := count flags s
          match least, most with
          | some (some n), some (some m) =>
            if n ≤ m then pure (⟨n, some m⟩, s) else .error .badRepetition
          | _, _ => .error .badRepetition
      | _ =>
        match least with
        | some (some n) => pure (⟨n, some n⟩, s)
        | _ => .error .badRepetition
    match s with
    | '\x7d' :: _ => return (range, next flags s)
    | _ => .error .badRepetition

def preference (flags : Flags) : List Char → Bool × List Char
  | '?' :: rest => (flags.swapGreed, rest)
  | s => (!flags.swapGreed, s)

def concatenation : List Piece → Piece
  | [] => ⟨.empty, 0, false⟩
  | [piece] => piece
  | pieces =>
    pieces.foldl
      (fun (whole : Piece) piece =>
        ⟨followedBy piece.pattern whole.pattern, max whole.depth (piece.depth + 1), true⟩)
      ⟨.empty, 1, true⟩

def alternation : List Piece → Piece
  | [] => ⟨.empty, 0, false⟩
  | [piece] => piece
  | pieces =>
    ⟨oneOf (pieces.reverse.map (·.pattern)),
      pieces.foldl (fun depth piece => max depth (piece.depth + 1)) 1, true⟩

def plainPiece (pattern : Pattern) : Piece := ⟨pattern, 0, true⟩

def literalPiece (flags : Flags) (c : Char) (byte : Bool) : Except PatternError Piece :=
  if !flags.unicode && byte && 128 ≤ c.toNat then .error .notUtf8
  else if !flags.caseInsensitive then .ok (plainPiece (.literal [c]))
  else if flags.unicode || c.toNat < 128 then
    .ok (plainPiece (ofSet (foldSet flags (.single c))))
  else .ok (plainPiece (.literal [c]))

def pointPiece (flags : Flags) : Except PatternError Piece :=
  if !flags.unicode then .error .notUtf8
  else
    let excluded : CharSet :=
      if flags.dotAll then .empty
      else if flags.returns then .union (.single '\n') (.single '\r')
      else .single '\n'
    .ok (plainPiece (.chars excluded.complement))

def linePiece (flags : Flags) (start : Bool) : Piece :=
  plainPiece (.look (match start, flags.multiLine with
    | true, true => .lineStart flags.returns
    | true, false => .textStart
    | false, true => .lineEnd flags.returns
    | false, false => .textEnd))

def repeatLast (branch : List Piece) (bounds : Bounds) (greedy : Bool) :
    Except PatternError (List Piece) :=
  match branch with
  | [] => .error .nothingToRepeat
  | piece :: before =>
    if piece.repeatable then
      .ok (⟨times piece.pattern bounds.least bounds.most greedy, piece.depth + 1, true⟩ :: before)
    else .error .nothingToRepeat

/-- Reads the branches of a group up to its closing parenthesis, which is left
to read, or to the end of the text. `branch` and `before` hold what has been
read, the last first; `fuel` is above the length of the text. -/
def readBranches : Nat → State → List Piece → List Piece → Except PatternError (Piece × State)
  | 0, _, _, _ => .error .tooDeep
  | fuel + 1, st, branch, before => do
    let s := skipSpace st.flags.verbose st.rest false
    let continueWith (piece : Piece) (rest : List Char) :=
      readBranches fuel { st with rest } (piece :: branch) before
    let repeatWith (bounds : Bounds) (rest : List Char) := do
      let (greedy, rest) := preference st.flags rest
      readBranches fuel { st with rest } (← repeatLast branch bounds greedy) before
    match s with
    | [] => return (alternation (concatenation branch :: before), { st with rest := [] })
    | ')' :: _ => return (alternation (concatenation branch :: before), { st with rest := s })
    | '|' :: rest => readBranches fuel { st with rest } [] (concatenation branch :: before)
    | '(' :: rest =>
      match ← opening st.flags rest with
      | .flags flags rest =>
        readBranches fuel { st with rest, flags } (⟨.empty, 0, false⟩ :: branch) before
      | .group flags name captures rest =>
        let names ← match name with
          | none => pure st.names
          | some name =>
            if st.names.contains name then .error .badGroupName else pure (name :: st.names)
        let number := st.groups + 1
        let groups := if captures then number else st.groups
        let (inner, after) ← readBranches fuel ⟨rest, flags, groups, names⟩ [] []
        match after.rest with
        | ')' :: rest =>
          let pattern := if captures then .group number inner.pattern else inner.pattern
          readBranches fuel { after with rest, flags := st.flags }
            (⟨pattern, inner.depth + 1, true⟩ :: branch) before
        | _ => .error .unclosedGroup
    | '[' :: _ =>
      let (negated, start, rest) ← setOpening st.flags s
      let (set, depth, rest) ← setBody st.flags (s.length + 1) negated start none rest
      continueWith ⟨ofSet set, depth, true⟩ rest
    | '*' :: rest => repeatWith ⟨0, none⟩ rest
    | '+' :: rest => repeatWith ⟨1, none⟩ rest
    | '?' :: rest => repeatWith ⟨0, some 1⟩ rest
    | '\x7b' :: _ =>
      let (bounds, rest) ← repetition st.flags s
      repeatWith bounds rest
    | '\\' :: rest =>
      match ← escape st.flags rest with
      | (.literal c byte, rest) => continueWith (← literalPiece st.flags c byte) rest
      | (.set set, rest) => continueWith (plainPiece (ofSet set)) rest
      | (.look condition, rest) => continueWith (plainPiece (.look condition)) rest
    | '.' :: rest => continueWith (← pointPiece st.flags) rest
    | '^' :: rest => continueWith (linePiece st.flags true) rest
    | '$' :: rest => continueWith (linePiece st.flags false) rest
    | c :: rest => continueWith (← literalPiece st.flags c false) rest

def ofChars (s : List Char) : Except PatternError Pattern := do
  let (piece, after) ← readBranches (s.length + 1) ⟨s, Flags.default, 0, []⟩ [] []
  if !after.rest.isEmpty then .error .unopenedGroup
  else if greatestDepth < piece.depth then .error .tooDeep
  else if piece.pattern.isTooLarge then .error .tooLarge
  else .ok piece.pattern

end ListingGrid.Pattern
