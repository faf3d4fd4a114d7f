import ListingGrid.Pattern.Build
import ListingGrid.Pattern.Utf8
import Std.Data.HashMap

/-!
# The size of a pattern's automaton

A pattern is refused when the automaton that it stands for takes too much
memory, read from the front or from the back. The automaton works on bytes and
is not built here: only its states are counted, in the order in which they would
be made, with the memory that they take.

A set of characters beyond ASCII becomes a net of states in which equal states
are made once. States that were made are remembered in slots by a hash, each
slot keeping the last one, so a state can be forgotten and be made again.
-/

set_option autoImplicit false

namespace ListingGrid.Pattern

structure Growth where
  states : Nat
  memory : Nat
  deriving DecidableEq, Repr

def greatestSize : Nat := 10 * Nat.pow 2 20

def stateSize : Nat := 32

def rangeSize : Nat := 8

def branchSize : Nat := 4

namespace Growth

def none : Growth := ⟨0, 0⟩

def isTooLarge (g : Growth) : Bool := greatestSize < g.memory

def state (extra : Nat) (g : Growth) : Growth := ⟨g.states + 1, g.memory + (stateSize + extra)⟩

def statesOf (n : Nat) (g : Growth) : Growth := ⟨g.states + n, g.memory + stateSize * n⟩

def ranges (n : Nat) (g : Growth) : Growth := g.state (rangeSize * n)

def branch (n : Nat) (g : Growth) : Growth := g.state (branchSize * n)

def link (g : Growth) : Growth := ⟨g.states, g.memory + branchSize⟩

def repeatedly (step : Growth → Growth) : Nat → Growth → Growth
  | 0, g => g
  | n + 1, g => if g.isTooLarge then g else repeatedly step n (step g)

end Growth

def mix (hash : UInt64) (n : Nat) : UInt64 := (hash ^^^ n.toUInt64) * 1099511628211

def slotOf (slots : Nat) (numbers : List Nat) : Nat :=
  (numbers.foldl mix 14695981039346656037).toNat % slots

abbrev Slots := Std.HashMap Nat (List Nat × Nat)

def Slots.find? (kept : Slots) (slot : Nat) (key : List Nat) : Option Nat :=
  match kept[slot]? with
  | some (k, state) => if k = key then some state else none
  | none => none

structure Step where
  range : Utf8.ByteRange
  target : Nat
  deriving DecidableEq, Repr

/-- A state that is being made: the steps that are known, the last first, and
the range of the step whose target is not. -/
structure OpenState where
  steps : List Step
  pending : Option Utf8.ByteRange

structure Net where
  growth : Growth
  kept : Slots

def forwardSlots : Nat := 10000

def Net.stateOf (net : Net) (steps : List Step) : Nat × Net :=
  let key := steps.reverse.flatMap fun s => [s.range.1, s.range.2, s.target]
  let slot := slotOf forwardSlots key
  match net.kept.find? slot key with
  | some state => (state, net)
  | none =>
    (net.growth.states,
      ⟨net.growth.ranges steps.length, net.kept.insert slot (key, net.growth.states)⟩)

def OpenState.complete (state : OpenState) (target : Nat) : List Step :=
  match state.pending with
  | some range => ⟨range, target⟩ :: state.steps
  | none => state.steps

/-- Makes a chain of open states, from the last one on, which leads to `target`;
gives the state that the chain begins with. -/
def Net.closeAll (target : Nat) : List OpenState → Net → Nat × Net
  | [], net => (target, net)
  | state :: deeper, net =>
    let (next, net) := closeAll target deeper net
    net.stateOf (state.complete next)

/-- Adds a sequence of byte ranges to a chain of open states: the states for
ranges that it shares with the sequence before are kept open, the others made. -/
def Net.add (target : Nat) : List OpenState → List Utf8.ByteRange → Net → List OpenState × Net
  | [], ranges, net => (ranges.map fun r => ⟨[], some r⟩, net)
  | state :: deeper, [], net => (state :: deeper, net)
  | state :: deeper, r :: ranges, net =>
    if state.pending = some r then
      let (deeper, net) := add target deeper ranges net
      (state :: deeper, net)
    else
      let (next, net) := closeAll target deeper net
      (⟨state.complete next, some r⟩ :: ranges.map fun r => ⟨[], some r⟩, net)

def growForward (set : CharSet) (g : Growth) : Growth :=
  let target := g.states
  let (chain, net) := (Utf8.ofSet set).foldl
    (fun (chain, net) ranges => net.add target chain ranges)
    ([⟨[], none⟩], (⟨g.state 0, {}⟩ : Net))
  (net.closeAll target chain).2.growth

def backwardSlots : Nat := 1000

def Net.addBackward : Nat → List Utf8.ByteRange → Net → Net
  | _, [], net => { net with growth := net.growth.link }
  | target, r :: ranges, net =>
    let key := [target, r.1, r.2]
    let slot := slotOf backwardSlots key
    match net.kept.find? slot key with
    | some state => addBackward state ranges net
    | none =>
      let state := net.growth.states
      addBackward state ranges ⟨net.growth.state 0, net.kept.insert slot (key, state)⟩

def growBackward (set : CharSet) (g : Growth) : Growth :=
  let target := g.states + 1
  ((Utf8.ofSet set).foldl (fun (net : Net) ranges => net.addBackward target ranges)
    ⟨(g.branch 0).state 0, {}⟩).growth

def growSet (backward : Bool) (set : CharSet) (g : Growth) : Growth :=
  if set.isAscii then (g.state 0).ranges set.ranges.length
  else if backward then growBackward set g
  else growForward set g

def cutAtEnds : List (List Nat) → List (List (List Nat))
  | [] => [[]]
  | [] :: words => [] :: cutAtEnds words
  | word :: words =>
    match cutAtEnds words with
    | chunk :: more => (word :: chunk) :: more
    | [] => [[word]]

/-- The runs of words that go on between those that end here. Words that end
here before any goes on count as one. -/
def chunks (words : List (List Nat)) : List (List (List Nat)) :=
  match words with
  | [] :: rest => cutAtEnds ([] :: rest.dropWhile List.isEmpty)
  | _ => cutAtEnds words

def byFirst (words : List (List Nat)) : List (List (List Nat)) :=
  (words.filterMap List.head?).eraseDups.map fun b =>
    words.filterMap fun word => if word.head? = some b then some (word.drop 1) else none

/-- The states for words of which one is read: a state for each run of words,
one in front of them, and those for what follows the first bytes. No word is
longer than `fuel`. -/
def growWords : Nat → List (List Nat) → Growth → Growth
  | 0, _, g => g
  | fuel + 1, words, g =>
    let runs := (chunks words).map byFirst
    let read := runs.filter fun run => !run.isEmpty
    let g := read.foldl
      (fun (g : Growth) run => if run.length = 1 then g.state 0 else g.ranges run.length) g
    let g := g.branch (read.length + (runs.length - 1))
    read.flatten.foldl
      (fun g rest => if rest.all List.isEmpty then g else growWords fuel rest g) g

def literals? (p : Pattern) : Option (List (List Nat)) :=
  (branches p).mapM fun
    | .literal text => some (Utf8.ofText text)
    | _ => none

def shortest? : Pattern → Option Nat
  | .empty => some 0
  | .look _ => some 0
  | .literal text => some (Utf8.ofText text).length
  | .chars set => set.first?.map fun n => (Utf8.bytes n).length
  | .seq a b => do return (← shortest? a) + (← shortest? b)
  | .alt a b => do return min (← shortest? a) (← shortest? b)
  | .repeated body least _ _ => (shortest? body).map (· * least)
  | .group _ body => shortest? body

def readsSomething (p : Pattern) : Bool :=
  match shortest? p with
  | some n => 0 < n
  | none => false

def growRepeated (once : Growth → Growth) (reads : Bool) (least : Nat) (most : Option Nat)
    (g : Growth) : Growth :=
  match most with
  | none =>
    if least = 0 then
      if reads then once (g.branch 2) else (((once g).branch 2).branch 2).state 0
    else (g.repeatedly once least).branch 2
  | some most =>
    if least = 0 ∧ most = 1 then (once (g.branch 2)).state 0
    else
      let g := if least = 0 then g.state 0 else g.repeatedly once least
      if least = most then g
      else (g.state 0).repeatedly (fun g => once (g.branch 2)) (most - least)

def grow (backward : Bool) : Pattern → Bool → Growth → Growth
  | .empty, _, g => g.state 0
  | .literal text, _, g => g.statesOf (Utf8.ofText text).length
  | .chars set, _, g => growSet backward set g
  | .look _, _, g => g.state 0
  | .seq a b, _, g =>
    if backward then grow backward a false (grow backward b false g)
    else grow backward b false (grow backward a false g)
  | .alt a b, inner, g =>
    match if inner then none else literals? (.alt a b) with
    | some words =>
      let words := if backward then words.map List.reverse else words
      growWords (words.foldl (fun n word => n + word.length) 1) words (g.state 0)
    | none =>
      let g := grow backward b false (grow backward a true g)
      if isAlt a then g.link else (g.branch 2).state 0
  | .repeated body least most _, _, g =>
    growRepeated (grow backward body false) (readsSomething body) least most g
  | .group _ body, _, g =>
    if backward then grow backward body false g
    else (grow backward body false (g.state 0)).state 0

def isAnchored : Pattern → Bool
  | .look .textStart => true
  | .seq a b => isAnchored a || (isZeroWidth a && isAnchored b)
  | .alt a b => isAnchored a && isAnchored b
  | .repeated body least _ _ => 0 < least && isAnchored body
  | .group _ body => isAnchored body
  | _ => false

def isEndAnchored : Pattern → Bool
  | .look .textEnd => true
  | .seq a b => isEndAnchored b || (isZeroWidth b && isEndAnchored a)
  | .alt a b => isEndAnchored a && isEndAnchored b
  | .repeated body least _ _ => 0 < least && isEndAnchored body
  | .group _ body => isEndAnchored body
  | _ => false

def growPrelude (anchored : Bool) (g : Growth) : Growth :=
  if anchored then g.state 0 else ((g.branch 2).state 0).ranges 1

def forwardGrowth (p : Pattern) : Growth :=
  ((grow false p false ((growPrelude (isAnchored p) .none).state 0)).state 0).state 0

def backwardGrowth (p : Pattern) : Growth :=
  (grow true p false (growPrelude (isEndAnchored p) .none)).state 0

def isTooLarge (p : Pattern) : Bool :=
  (forwardGrowth p).isTooLarge || (backwardGrowth p).isTooLarge

end ListingGrid.Pattern
