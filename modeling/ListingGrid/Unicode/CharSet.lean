import ListingGrid.Text.Ascii

/-!
# Sets of characters

A set of characters is the ascending list of its ranges, none of which overlaps
or touches the next. Ranges touch when their code points follow each other; the
surrogates, which are no characters, keep U+D7FF and U+E000 apart. A set can
also be read from text that gives its ranges in hexadecimal.
-/

set_option autoImplicit false

namespace ListingGrid

structure CharSet where
  ranges : List (Nat × Nat)
  deriving DecidableEq, Repr

namespace CharSet

def lastCode : Nat := 0x10FFFF

def empty : CharSet := ⟨[]⟩

def all : CharSet := ⟨[(0, lastCode)]⟩

def range (first last : Nat) : CharSet := ⟨[(first, last)]⟩

def single (c : Char) : CharSet := range c.toNat c.toNat

def after (n : Nat) : Nat := if n = 0xD7FF then 0xE000 else n + 1

def before (n : Nat) : Nat := if n = 0xE000 then 0xD7FF else n - 1

def holds (n : Nat) : List (Nat × Nat) → Bool
  | [] => false
  | (first, last) :: rest => if n < first then false else n ≤ last || holds n rest

def contains (set : CharSet) (c : Char) : Bool := holds c.toNat set.ranges

def last? (set : CharSet) : Option Nat := set.ranges.getLast?.map (·.2)

def first? (set : CharSet) : Option Nat := set.ranges.head?.map (·.1)

def isAscii (set : CharSet) : Bool :=
  match set.last? with
  | none => true
  | some n => n < 128

def onlyMember? (set : CharSet) : Option Char :=
  match set.ranges with
  | [(first, last)] => if first = last then some (Char.ofNat first) else none
  | _ => none

def mergeOne (r : Nat × Nat) (rest : List (Nat × Nat) → List (Nat × Nat)) :
    List (Nat × Nat) → List (Nat × Nat)
  | [] => r :: rest []
  | s :: b => if r.1 ≤ s.1 then r :: rest (s :: b) else s :: mergeOne r rest b

def merge : List (Nat × Nat) → List (Nat × Nat) → List (Nat × Nat)
  | [], b => b
  | r :: a, b => mergeOne r (merge a) b

def joinFrom (r : Nat × Nat) : List (Nat × Nat) → List (Nat × Nat)
  | [] => [r]
  | s :: rest =>
    if s.1 ≤ r.2 + 1 then joinFrom (r.1, max r.2 s.2) rest else r :: joinFrom s rest

def ofAscending : List (Nat × Nat) → CharSet
  | [] => empty
  | r :: rest => ⟨joinFrom r rest⟩

def union (a b : CharSet) : CharSet := ofAscending (merge a.ranges b.ranges)

def unionAll (sets : List CharSet) : CharSet := sets.foldr union empty

def ofCodes (codes : List Nat) : CharSet :=
  ofAscending ((codes.mergeSort fun a b => a ≤ b).map fun n => (n, n))

def overlap? (r s : Nat × Nat) : Option (Nat × Nat) :=
  if max r.1 s.1 ≤ min r.2 s.2 then some (max r.1 s.1, min r.2 s.2) else none

def inter (a b : CharSet) : CharSet := ⟨a.ranges.flatMap fun r => b.ranges.filterMap (overlap? r)⟩

def cut (first last : Nat) : List (Nat × Nat) → List (Nat × Nat)
  | [] => [(first, last)]
  | (f, l) :: rest =>
    if l < first then cut first last rest
    else if last < f then [(first, last)]
    else
      (if first < f then [(first, before f)] else []) ++
        (if l < last then cut (after l) last rest else [])

def difference (a b : CharSet) : CharSet := ⟨a.ranges.flatMap fun r => cut r.1 r.2 b.ranges⟩

def symmetricDifference (a b : CharSet) : CharSet := difference (union a b) (inter a b)

/-- The gaps after a range that ends with `last`. A gap goes from the character
after one range to the one before the next, whichever of them comes first:
where the surrogates alone part two ranges, both these characters are in it. -/
def gapsAfter (last : Nat) : List (Nat × Nat) → List (Nat × Nat)
  | [] => if last < lastCode then [(after last, lastCode)] else []
  | (f, l) :: rest =>
    (min (after last) (before f), max (after last) (before f)) :: gapsAfter l rest

def complement (set : CharSet) : CharSet :=
  match set.ranges with
  | [] => all
  | (first, last) :: rest =>
    ⟨(if 0 < first then [(0, before first)] else []) ++ gapsAfter last rest⟩

def words (s : List Char) : List (List Char) :=
  s.foldr (fun c pieces =>
    if c = ' ' then [] :: pieces
    else match pieces with
      | piece :: more => (c :: piece) :: more
      | [] => [[c]]) [[]]

def rangeOf (word : List Char) : Nat × Nat :=
  let first := Text.hexadecimalValue (word.takeWhile (· != '-'))
  match word.dropWhile (· != '-') with
  | [] => (first, first)
  | _ :: last => (first, Text.hexadecimalValue last)

def wordsOf (rows : List String) : List (List Char) := rows.flatMap fun row => words row.toList

def ofRows (rows : List String) : CharSet := ⟨(wordsOf rows).map rangeOf⟩

end CharSet

end ListingGrid
