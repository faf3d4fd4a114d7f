import ListingGrid.Pattern.Escape

/-!
# Bracketed sets

A set in square brackets lists characters, ranges, named sets and sets in
brackets of their own, and may join such lists by operations.
-/

set_option autoImplicit false

namespace ListingGrid.Pattern

def setItem (flags : Flags) (s : List Char) : Except PatternError (Escape × List Char) :=
  match s with
  | [] => .error .badClass
  | '\\' :: rest => escape flags rest
  | c :: rest => .ok (.literal c false, rest)

def setChar (flags : Flags) (c : Char) (byte : Bool) : Except PatternError Char :=
  if flags.unicode || c.toNat < 128 then .ok c
  else if byte then .error .notUtf8
  else .error .unicodeNotAllowed

def setRange (flags : Flags) (s : List Char) : Except PatternError (CharSet × List Char) := do
  let (first, rest) ← setItem flags s
  let rest := skipSpace flags.verbose rest false
  let ends := match rest with
    | [] => true
    | c :: _ =>
      c != '-' || peekSpace flags.verbose rest == some ']' ||
        peekSpace flags.verbose rest == some '-'
  if rest.isEmpty then .error .badClass
  else if ends then
    match first with
    | .literal c byte => return (.single (← setChar flags c byte), rest)
    | .set set => return (set, rest)
    | .look _ => .error .badClass
  else
    let (last, rest) ← setItem flags (next flags rest)
    match first, last with
    | .literal a byteA, .literal b byteB =>
      let a ← setChar flags a byteA
      let b ← setChar flags b byteB
      if a ≤ b then return (.range a.toNat b.toNat, rest) else .error .badClass
    | _, _ => .error .badClass

def namedSet? (s : List Char) : Option (CharSet × Bool × List Char) :=
  match s with
  | '[' :: ':' :: rest =>
    let (negated, rest) := match rest with
      | '^' :: more => (true, more)
      | _ => (false, rest)
    match rest.dropWhile (· != ':') with
    | ':' :: ']' :: after =>
      (CharSet.named? (String.ofList (rest.takeWhile (· != ':')))).map fun set =>
        (set, negated, after)
    | _ => none
  | _ => none

structure Items where
  set : CharSet
  count : Nat
  depth : Nat

namespace Items

def none : Items := ⟨.empty, 0, 0⟩

def add (items : Items) (set : CharSet) (depth : Nat) : Items :=
  ⟨items.set.union set, items.count + 1, max items.depth depth⟩

def wholeDepth (items : Items) : Nat :=
  if items.count < 2 then items.depth else items.depth + 1

end Items

structure PendingOperation where
  left : CharSet
  depth : Nat
  operation : CharSet → CharSet → CharSet

def applyPending (flags : Flags) (pending : Option PendingOperation) (items : Items) :
    CharSet × Nat :=
  match pending with
  | none => (items.set, items.wholeDepth)
  | some p =>
    (p.operation (foldSet flags p.left) (foldSet flags items.set),
      max p.depth items.wholeDepth + 1)

def beginOperation (flags : Flags) (pending : Option PendingOperation) (items : Items)
    (operation : CharSet → CharSet → CharSet) : Option PendingOperation :=
  let (left, depth) := applyPending flags pending items
  some ⟨left, depth, operation⟩

def leadingHyphens (flags : Flags) : Nat → Items → List Char → Items × List Char
  | 0, items, s => (items, s)
  | fuel + 1, items, s =>
    match s with
    | '-' :: _ => leadingHyphens flags fuel (items.add (.single '-') 0) (next flags s)
    | _ => (items, s)

/-- Reads the opening of a bracketed set: the circumflex, hyphens, and a closing
bracket that stands for itself. -/
def setOpening (flags : Flags) (s : List Char) :
    Except PatternError (Bool × Items × List Char) :=
  let s := next flags s
  let (negated, s) := match s with
    | '^' :: _ => (true, next flags s)
    | _ => (false, s)
  let (items, s) := leadingHyphens flags s.length .none s
  match s with
  | [] => .error .badClass
  | ']' :: _ =>
    if items.count = 0 then .ok (negated, items.add (.single ']') 0, next flags s)
    else .ok (negated, items, s)
  | _ => .ok (negated, items, s)

def closeSet (flags : Flags) (negated : Bool) (set : CharSet) : Except PatternError CharSet :=
  let set := foldSet flags set
  if !negated then .ok set
  else if flags.unicode then .ok set.complement
  else .error .notUtf8

/-- Reads the inside of a bracketed set up to its closing bracket: the set, its
nesting and what follows. `fuel` is above the length of the text. -/
def setBody (flags : Flags) : Nat → Bool → Items → Option PendingOperation → List Char →
    Except PatternError (CharSet × Nat × List Char)
  | 0, _, _, _, _ => .error .badClass
  | fuel + 1, negated, items, pending, s => do
    let s := skipSpace flags.verbose s false
    match s with
    | [] => .error .badClass
    | ']' :: rest =>
      let (set, depth) := applyPending flags pending items
      return (← closeSet flags negated set, depth + 1, rest)
    | '&' :: '&' :: rest =>
      setBody flags fuel negated .none (beginOperation flags pending items .inter) rest
    | '-' :: '-' :: rest =>
      setBody flags fuel negated .none (beginOperation flags pending items .difference) rest
    | '~' :: '~' :: rest =>
      setBody flags fuel negated .none
        (beginOperation flags pending items .symmetricDifference) rest
    | '[' :: _ =>
      match namedSet? s with
      | some (named, isNegated, rest) =>
        setBody flags fuel negated (items.add (← closeSet flags isNegated named) 0) pending rest
      | none =>
        let (innerNegated, start, rest) ← setOpening flags s
        let (inner, depth, rest) ← setBody flags fuel innerNegated start none rest
        setBody flags fuel negated (items.add inner depth) pending rest
    | _ =>
      let (item, rest) ← setRange flags s
      setBody flags fuel negated (items.add item 0) pending rest

end ListingGrid.Pattern
