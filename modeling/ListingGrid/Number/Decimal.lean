import ListingGrid.Number.Shortest
import ListingGrid.Text.Cut

/-!
# Decimals of any length

A decimal keeps every digit it was written with: `1.50` is 150 at scale 2.
Zero has one spelling, whatever its scale.
-/

set_option autoImplicit false

namespace ListingGrid

structure Decimal where
  unscaled : Int
  scale : Int
  deriving DecidableEq, Repr

namespace Decimal

def zero : Decimal := ⟨0, 0⟩

def natural? (s : List Char) : Option Nat :=
  if s.isEmpty || s.head? = some '_' then none
  else if s.all (fun c => Text.isDigit c || c == '_') then
    some (Text.decimalValue (s.filter Text.isDigit))
  else none

def signed? (s : List Char) : Option Int :=
  match s with
  | '-' :: '+' :: _ => none
  | '-' :: rest => (natural? rest).map fun n => -(n : Int)
  | '+' :: '+' :: _ => none
  | '+' :: rest => (natural? rest).map Int.ofNat
  | _ => (natural? s).map Int.ofNat

def exponent? (s : List Char) : Option Int :=
  let digits (t : List Char) : Option Nat :=
    if !t.isEmpty && t.all Text.isDigit then some (Text.decimalValue t) else none
  match s with
  | '-' :: rest => (digits rest).map fun n => -(n : Int)
  | '+' :: rest => (digits rest).map Int.ofNat
  | _ => (digits s).map Int.ofNat

def scaleWith? (places : Nat) (exponent : Int) : Option Int :=
  let scale : Int := places - exponent
  if -(Nat.pow 2 63 : Int) ≤ scale ∧ scale < (Nat.pow 2 63 : Int) then some scale else none

/-- Reads a sign, digits with at most one point among them, and an exponent.
The scale is the number of digits after the point, less the exponent; without
one it always fits, as there are fewer digits in a text. -/
def ofChars? (s : List Char) : Option Decimal := do
  let (base, exponentPart) := Text.cutAt (fun c => c == 'e' || c == 'E') s
  let (whole, fractionPart) := Text.cutAt (· == '.') base
  let fraction := fractionPart.getD []
  let places := (fraction.filter (· != '_')).length
  let scale ← match exponentPart with
    | none => some (places : Int)
    | some text => (exponent? text).bind (scaleWith? places)
  let unscaled ← signed? (whole ++ fraction)
  return ⟨unscaled, scale⟩

def mostLeadingZeros : Nat := 5

def mostTrailingZeros : Nat := 15

def magnitudeText (digits : List Char) (scale : Int) : List Char :=
  if scale ≤ 0 then
    let zeros := (-scale).toNat
    if mostTrailingZeros < zeros then
      digits ++ ['e', '+'] ++ Text.decimalDigits zeros
    else digits ++ List.replicate zeros '0'
  else
    let places := scale.toNat
    if places < digits.length then
      digits.take (digits.length - places) ++ '.' :: digits.drop (digits.length - places)
    else
      let zeros := places - digits.length
      if mostLeadingZeros < zeros then
        let fraction := match digits.drop 1 with
          | [] => []
          | more => '.' :: more
        digits.take 1 ++ fraction ++ ['E', '-'] ++ Text.decimalDigits (zeros + 1)
      else '0' :: '.' :: List.replicate zeros '0' ++ digits

def text (d : Decimal) : List Char :=
  if d.unscaled = 0 then ['0']
  else
    (if d.unscaled < 0 then ['-'] else []) ++
      magnitudeText (Text.decimalDigits d.unscaled.natAbs) d.scale

def toDouble (d : Decimal) : Double :=
  Double.ofDecimal (d.unscaled < 0) d.unscaled.natAbs (-d.scale)

def sameValue (a b : Decimal) : Bool :=
  if a.unscaled = 0 ∨ b.unscaled = 0 then a.unscaled = 0 ∧ b.unscaled = 0
  else
    let digits (d : Decimal) : Double.Digits :=
      Double.Digits.withoutZeros ⟨d.unscaled.natAbs, -d.scale⟩
    (a.unscaled < 0) = (b.unscaled < 0) ∧ digits a = digits b

end Decimal

namespace Double

/-- Reads a double: a sign, digits with a point among or around them, an
exponent, or one of the words for what lies outside the number line. -/
def ofChars? (s : List Char) : Option Double :=
  let (negative, body) := match s with
    | '-' :: rest => (true, rest)
    | '+' :: rest => (false, rest)
    | _ => (false, s)
  let word := Text.lowerAll body
  if word = "inf".toList ∨ word = "infinity".toList then some (.infinite negative)
  else if word = "nan".toList then some .nan
  else
    let (base, exponentPart) := Text.cutAt (fun c => c == 'e' || c == 'E') body
    let (whole, fractionPart) := Text.cutAt (· == '.') base
    let digits := whole ++ fractionPart.getD []
    if digits.isEmpty || !digits.all Text.isDigit then none
    else
      match exponentPart with
      | none =>
        some (ofDecimal negative (Text.decimalValue digits)
          (-((fractionPart.getD []).length : Int)))
      | some text =>
        (Decimal.exponent? text).map fun exponent =>
          ofDecimal negative (Text.decimalValue digits)
            (exponent - (fractionPart.getD []).length)

end Double

end ListingGrid
