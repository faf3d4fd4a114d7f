import ListingGrid.Number.Double
import ListingGrid.Text.Ascii

/-!
# The shortest decimal text of a double

A double is written with the fewest digits that read back as the same double.
On the grid of decimals with a given number of digits only the two neighbours
of the value can read back, so they are tried for one digit, two digits and so
on; of two neighbours that both read back the nearer is taken, the greater one
when both are equally near. A record says how the digits are laid out.
-/

set_option autoImplicit false

namespace ListingGrid.Double

def decimalMagnitude (num den : Nat) : Int :=
  let binary : Int := (num.log2 : Int) - (den.log2 : Int)
  let guess : Int := Int.fdiv (binary * 30103) 100000
  let reaches (k : Int) : Bool :=
    if 0 ≤ k then den * Nat.pow 10 k.toNat ≤ num else den ≤ num * Nat.pow 10 (-k).toNat
  if reaches (guess + 1) then guess + 1
  else if reaches guess then guess
  else if reaches (guess - 1) then guess - 1
  else guess - 2

structure Digits where
  digits : Nat
  exponent : Int
  deriving DecidableEq, Repr

/-- The neighbours of `num / den` on the grid of multiples of `10^exponent`
that read back as `target`, the nearer one first. -/
def neighbour? (target : Double) (num den : Nat) (exponent : Int) : Option Digits :=
  let (n, d) := if 0 ≤ exponent then (num, den * Nat.pow 10 exponent.toNat)
    else (num * Nat.pow 10 (-exponent).toNat, den)
  let below := n / d
  let candidates := if 2 * (n % d) < d then [below, below + 1] else [below + 1, below]
  (candidates.find? fun digits => ofDecimal false digits exponent == target).map (⟨·, exponent⟩)

def firstGrid (target : Double) (num den : Nat) (magnitude : Int) : Nat → Nat → Digits
  | 0, _ => ⟨num / den, 0⟩
  | more + 1, count =>
    match neighbour? target num den (magnitude - count + 1) with
    | some digits => digits
    | none => firstGrid target num den magnitude more (count + 1)

def Digits.withoutZeros (d : Digits) : Digits :=
  if h : d.digits ≠ 0 ∧ d.digits % 10 = 0 then
    Digits.withoutZeros ⟨d.digits / 10, d.exponent + 1⟩
  else d
termination_by d.digits
decreasing_by omega

def shortest (mantissa : Nat) (exponent : Int) : Digits :=
  if mantissa = 0 then ⟨0, 0⟩
  else
    let (num, den) := ratio mantissa exponent
    (firstGrid (.finite false mantissa exponent) num den
      (decimalMagnitude num den) 17 1).withoutZeros

structure Layout where
  leastPositional : Option Int
  /-- The greatest exponent of the first digit that is written positionally. -/
  greatestPositional : Option Int
  wholePoint : Bool

def positional (wholePoint : Bool) (d : Digits) : List Char :=
  let text := Text.decimalDigits d.digits
  if 0 ≤ d.exponent then
    text ++ List.replicate d.exponent.toNat '0' ++ (if wholePoint then ['.', '0'] else [])
  else
    let places := (-d.exponent).toNat
    if places < text.length then
      text.take (text.length - places) ++ '.' :: text.drop (text.length - places)
    else
      '0' :: '.' :: List.replicate (places - text.length) '0' ++ text

def scientific (d : Digits) : List Char :=
  let text := Text.decimalDigits d.digits
  let exponent := d.exponent + text.length - 1
  let fraction := match text.drop 1 with
    | [] => []
    | more => '.' :: more
  text.take 1 ++ fraction ++ 'e' :: (if 0 ≤ exponent then ['+'] else ['-']) ++
    Text.decimalDigits exponent.natAbs

def text (layout : Layout) : Double → List Char
  | .nan => "NaN".toList
  | .infinite negative => (if negative then ['-'] else []) ++ "inf".toList
  | .finite negative mantissa exponent =>
    let d := shortest mantissa exponent
    let first := d.exponent + (Text.decimalDigits d.digits).length - 1
    let low := match layout.leastPositional with
      | some k => decide (first < k)
      | none => false
    let high := match layout.greatestPositional with
      | some k => decide (k < first)
      | none => false
    (if negative then ['-'] else []) ++
      if mantissa != 0 && (low || high) then scientific d else positional layout.wholePoint d

/-- Doubles stand in cells without an exponent, however long that gets. -/
def plain : Layout := ⟨none, none, false⟩

end ListingGrid.Double
