import ListingGrid.Pattern.Basic

/-!
# Patterns built in their plainest form

Patterns that are put together are made plain on the way: sequences and
alternatives are flat, neighbouring literals are one literal, alternative
characters are one set, and what all alternatives begin with stands in front of
them. A sequence leans to the right and alternatives lean to the left.
-/

set_option autoImplicit false

namespace ListingGrid.Pattern

def ofSet (set : CharSet) : Pattern :=
  match set.onlyMember? with
  | some c => .literal [c]
  | none => .chars set

/-- A pattern that is no sequence, in front of another one. -/
def before : Pattern → Pattern → Pattern
  | .empty, q => q
  | p, .empty => p
  | .literal s, .literal t => .literal (s ++ t)
  | .literal s, .seq (.literal t) q => .seq (.literal (s ++ t)) q
  | p, q => .seq p q

def followedBy : Pattern → Pattern → Pattern
  | .seq a b, q => before a (followedBy b q)
  | p, q => before p q

def inOrder (parts : List Pattern) : Pattern := parts.foldr followedBy .empty

def parts : Pattern → List Pattern
  | .seq a b => a :: parts b
  | p => [p]

def isSeq : Pattern → Bool
  | .seq .. => true
  | _ => false

def branchesOnto : Pattern → List Pattern → List Pattern
  | .alt a b, more => branchesOnto a (b :: more)
  | p, more => p :: more

def branches (p : Pattern) : List Pattern := branchesOnto p []

def isAlt : Pattern → Bool
  | .alt .. => true
  | _ => false

def onlyChar? : Pattern → Option Char
  | .literal [c] => some c
  | _ => none

def set? : Pattern → Option CharSet
  | .chars set => some set
  | _ => none

def commonStart : List Pattern → List Pattern → List Pattern
  | p :: ps, q :: qs => if p = q then p :: commonStart ps qs else []
  | _, _ => []

def sharedParts : List Pattern → List Pattern
  | [] => []
  | p :: ps => if (p :: ps).all isSeq then (ps.map parts).foldl commonStart p.parts else []

def weight : Pattern → Nat
  | .seq a b => weight a + weight b + 1
  | .alt a b => weight a + weight b + 1
  | .repeated body .. => weight body + 1
  | .group _ body => weight body + 1
  | _ => 1

/-- One of several patterns. Their weights add up to less than `fuel`, and what is
left of them behind their shared parts weighs less. -/
def oneOfBranches : Nat → List Pattern → Pattern
  | 0, _ => .chars .empty
  | fuel + 1, patterns =>
    match patterns.flatMap branches with
    | [] => .chars .empty
    | [p] => p
    | p :: rest =>
      match (p :: rest).mapM onlyChar?, (p :: rest).mapM set? with
      | some cs, _ => ofSet (.ofCodes (cs.map Char.toNat))
      | none, some sets => ofSet (.unionAll sets)
      | none, none =>
        match sharedParts (p :: rest) with
        | [] => rest.foldl .alt p
        | shared =>
          let remainders := (p :: rest).map fun q => inOrder (q.parts.drop shared.length)
          inOrder (shared ++ [oneOfBranches fuel remainders])

def oneOf (patterns : List Pattern) : Pattern :=
  oneOfBranches (patterns.foldl (fun n p => n + weight p) 1) patterns

def isZeroWidth : Pattern → Bool
  | .empty => true
  | .look _ => true
  | .literal _ => false
  | .chars _ => false
  | .seq a b => isZeroWidth a && isZeroWidth b
  | .alt a b => isZeroWidth a && isZeroWidth b
  | .repeated body .. => isZeroWidth body
  | .group _ body => isZeroWidth body

def times (p : Pattern) (least : Nat) (most : Option Nat) (greedy : Bool) : Pattern :=
  let least := if isZeroWidth p then min least 1 else least
  let most := if isZeroWidth p then some (min (most.getD 1) 1) else most
  if most = some 0 then .empty
  else if least = 1 ∧ most = some 1 then p
  else .repeated p least most greedy

end ListingGrid.Pattern
