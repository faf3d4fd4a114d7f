/-!
# Binary floating-point numbers

A double is a sign, a mantissa below 2^53 and a binary exponent, or one of the
values outside the number line. Nothing here rounds twice: a ratio of natural
numbers is compared exactly with the doubles around it, and the nearer one is
taken, the one with the even mantissa when both are equally near.
-/

set_option autoImplicit false

namespace ListingGrid

inductive Double where
  | finite (negative : Bool) (mantissa : Nat) (exponent : Int)
  | infinite (negative : Bool)
  | nan
  deriving DecidableEq, Repr

namespace Double

def leastExponent : Int := -1074

def greatestExponent : Int := 971

def zero (negative : Bool) : Double := .finite negative 0 leastExponent

def roundDiv (num den : Nat) : Nat :=
  let quotient := num / den
  let twice := 2 * (num % den)
  if twice < den then quotient
  else if den < twice then quotient + 1
  else quotient + quotient % 2

def scaled (num den : Nat) (exponent : Int) : Nat × Nat :=
  if 0 ≤ exponent then (num, den * Nat.pow 2 exponent.toNat)
  else (num * Nat.pow 2 (-exponent).toNat, den)

/-- The binary exponent at which a positive ratio has a mantissa of 53 bits,
raised to the least exponent for numbers close to zero. -/
def fittingExponent (num den : Nat) : Int :=
  let guess : Int := (num.log2 : Int) - (den.log2 : Int) - 52
  let (n, d) := scaled num den guess
  let exponent := if n < d * Nat.pow 2 52 then guess - 1 else guess
  max exponent leastExponent

def nearest (negative : Bool) (num den : Nat) : Double :=
  if num = 0 then zero negative
  else
    let exponent := fittingExponent num den
    let (n, d) := scaled num den exponent
    let mantissa := roundDiv n d
    let (mantissa, exponent) :=
      if mantissa = Nat.pow 2 53 then (Nat.pow 2 52, exponent + 1) else (mantissa, exponent)
    if greatestExponent < exponent then .infinite negative
    else .finite negative mantissa exponent

def ofInt (n : Int) : Double := nearest (n < 0) n.natAbs 1

def ratio (mantissa : Nat) (exponent : Int) : Nat × Nat :=
  if 0 ≤ exponent then (mantissa * Nat.pow 2 exponent.toNat, 1)
  else (mantissa, Nat.pow 2 (-exponent).toNat)

/-- The double nearest to `±digits · 10^exponent`. Exponents far outside the
range of doubles are answered without computing the power. -/
def ofDecimal (negative : Bool) (digits : Nat) (exponent : Int) : Double :=
  if digits = 0 then zero negative
  else
    let places : Int := (Nat.toDigits 10 digits).length + exponent
    if 400 < places then .infinite negative
    else if places < -400 then zero negative
    else if 0 ≤ exponent then nearest negative (digits * Nat.pow 10 exponent.toNat) 1
    else nearest negative digits (Nat.pow 10 (-exponent).toNat)

def isFinite : Double → Bool
  | .finite .. => true
  | _ => false

def divide : Double → Double → Double
  | .finite negative m e, .finite _ m' e' =>
    let (n, d) := ratio m e
    let (n', d') := ratio m' e'
    if m' = 0 then .infinite negative else nearest negative (n * d') (d * n')
  | a, _ => a

def multiply : Double → Double → Double
  | .finite negative m e, .finite _ m' e' =>
    let (n, d) := ratio m e
    let (n', d') := ratio m' e'
    nearest negative (n * n') (d * d')
  | a, _ => a

end Double

end ListingGrid
