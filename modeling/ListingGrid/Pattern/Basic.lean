import ListingGrid.Pattern.Shorthand

/-!
# Patterns and where they match

A pattern is read against one line. Its meaning is a function on sets of
positions: from the positions where a match may begin to those where it may
end. Sets of positions are descending lists without repetition, so alternatives
that lead to the same position are followed once and no input makes the search
go back.
-/

set_option autoImplicit false

namespace ListingGrid

inductive Look where
  | textStart
  | textEnd
  | lineStart (returns : Bool)
  | lineEnd (returns : Bool)
  | wordBoundary (unicode : Bool)
  | noWordBoundary (unicode : Bool)
  | wordStart (unicode : Bool)
  | wordEnd (unicode : Bool)
  | wordStartHalf (unicode : Bool)
  | wordEndHalf (unicode : Bool)
  deriving DecidableEq, Repr

inductive Pattern where
  | empty
  | literal (text : List Char)
  | chars (set : CharSet)
  | look (condition : Look)
  | seq (first rest : Pattern)
  | alt (before last : Pattern)
  /-- `greedy` tells whether more repetitions are preferred to fewer, which says
  nothing about where matches end. -/
  | repeated (body : Pattern) (least : Nat) (most : Option Nat) (greedy : Bool)
  | group (number : Nat) (body : Pattern)
  deriving DecidableEq, Repr

namespace Look

def before? (text : Array Char) (i : Nat) : Option Char :=
  if i = 0 then none else text[i - 1]?

def isWord (unicode : Bool) (c : Option Char) : Bool :=
  match c with
  | none => false
  | some c => (CharSet.word unicode).contains c

def holds (text : Array Char) (i : Nat) : Look → Bool
  | .textStart => i == 0
  | .textEnd => i == text.size
  | .lineStart false => i == 0 || before? text i == some '\n'
  | .lineStart true =>
    i == 0 || before? text i == some '\n' ||
      (before? text i == some '\r' && text[i]? != some '\n')
  | .lineEnd false => i == text.size || text[i]? == some '\n'
  | .lineEnd true =>
    i == text.size || text[i]? == some '\r' ||
      (text[i]? == some '\n' && before? text i != some '\r')
  | .wordBoundary u => isWord u (before? text i) != isWord u text[i]?
  | .noWordBoundary u => isWord u (before? text i) == isWord u text[i]?
  | .wordStart u => !isWord u (before? text i) && isWord u text[i]?
  | .wordEnd u => isWord u (before? text i) && !isWord u text[i]?
  | .wordStartHalf u => !isWord u (before? text i)
  | .wordEndHalf u => !isWord u text[i]?

end Look

namespace Pattern

def union : List Nat → List Nat → List Nat
  | [], b => b
  | a, [] => a
  | x :: a, y :: b =>
    if y < x then x :: union a (y :: b)
    else if x < y then y :: union (x :: a) b
    else x :: union a b
termination_by a b => a.length + b.length

def without : List Nat → List Nat → List Nat
  | [], _ => []
  | a, [] => a
  | x :: a, y :: b =>
    if y < x then x :: without a (y :: b)
    else if x < y then without (x :: a) b
    else without a b
termination_by a b => a.length + b.length

def iterate (f : List Nat → List Nat) : Nat → List Nat → List Nat
  | 0, starts => starts
  | n + 1, starts =>
    let next := f starts
    if next == starts then starts else iterate f n next

/-- What is reached from `starts` by taking `f` up to the given number of
times; only positions that are new are followed further. -/
def reach (f : List Nat → List Nat) : Nat → List Nat → List Nat → List Nat
  | 0, seen, _ => seen
  | n + 1, seen, fresh =>
    let next := without (f fresh) seen
    if next.isEmpty then seen else reach f n (union next seen) next

def literalEnd? (text : Array Char) : List Char → Nat → Option Nat
  | [], i => some i
  | c :: rest, i => if text[i]? == some c then literalEnd? text rest (i + 1) else none

def setEnd? (text : Array Char) (set : CharSet) (i : Nat) : Option Nat :=
  match text[i]? with
  | some c => if set.contains c then some (i + 1) else none
  | none => none

def ends (text : Array Char) : Pattern → List Nat → List Nat
  | .empty, starts => starts
  | .literal cs, starts => starts.filterMap (literalEnd? text cs)
  | .chars set, starts => starts.filterMap (setEnd? text set)
  | .look condition, starts => starts.filter fun i => condition.holds text i
  | .seq a b, starts => ends text b (ends text a starts)
  | .alt a b, starts => union (ends text a starts) (ends text b starts)
  | .repeated body least most _, starts =>
    let required := iterate (ends text body) least starts
    let further := match most with
      | none => text.size + 1
      | some n => min (n - least) (text.size + 1)
    reach (ends text body) further required required
  | .group _ body, starts => ends text body starts

/-- Whether the pattern matches somewhere in the line. -/
def isMatch (p : Pattern) (text : List Char) : Bool :=
  !(ends text.toArray p (List.range (text.length + 1)).reverse).isEmpty

end Pattern

end ListingGrid
