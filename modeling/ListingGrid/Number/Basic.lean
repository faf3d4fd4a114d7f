import ListingGrid.Number.Decimal

/-!
# Numbers and their kinds

A cell holds an integer of 64 bits, a double, or a decimal with every digit it
was printed with. The eleven numeric tags name the ways in which listings
print these.
-/

set_option autoImplicit false

namespace ListingGrid

inductive NumericKind where
  | integer
  | float
  | decimal
  deriving DecidableEq, Repr

namespace NumericKind

def all : List NumericKind := [.integer, .float, .decimal]

def keyword : NumericKind → String
  | .integer => "integer"
  | .float => "float"
  | .decimal => "decimal"

end NumericKind

inductive Number where
  | integer (value : Int)
  | float (value : Double)
  | decimal (value : Decimal)
  deriving DecidableEq, Repr

namespace Number

def kind : Number → NumericKind
  | .integer _ => .integer
  | .float _ => .float
  | .decimal _ => .decimal

def text : Number → String
  | .integer value => Text.integerText value
  | .float value => String.ofList (value.text Double.plain)
  | .decimal value => String.ofList value.text

def toDouble : Number → Double
  | .integer value => Double.ofInt value
  | .float value => value
  | .decimal value => value.toDouble

def leastInteger : Int := -(Nat.pow 2 63 : Int)

def greatestInteger : Int := (Nat.pow 2 63 : Int) - 1

def integer? (s : List Char) : Option Int :=
  let digits := match s with
    | '-' :: rest => rest
    | '+' :: rest => rest
    | _ => s
  if digits.isEmpty || !digits.all Text.isDigit then none
  else
    let value : Int :=
      if s.head? = some '-' then -(Text.decimalValue digits : Int) else Text.decimalValue digits
    if leastInteger ≤ value ∧ value ≤ greatestInteger then some value else none

def ofChars? (kind : NumericKind) (s : List Char) : Option Number :=
  match kind with
  | .integer => (integer? s).map .integer
  | .float => (Double.ofChars? s).map .float
  | .decimal => (Decimal.ofChars? s).map .decimal

end Number

def NumericKind.zero : NumericKind → Number
  | .integer => .integer 0
  | .float => .float (Double.zero false)
  | .decimal => .decimal Decimal.zero

/-- The numeric field types. The letters after the kind name the thousands
separator and the decimal mark: `c` a comma, `d` a dot. -/
inductive NumericTag where
  | integer
  | integerC
  | integerD
  | float
  | floatC
  | floatCD
  | floatDC
  | decimal
  | decimalC
  | decimalCD
  | decimalDC
  deriving DecidableEq, Repr

namespace NumericTag

def all : List NumericTag :=
  [.integer, .integerC, .integerD, .float, .floatC, .floatCD, .floatDC,
    .decimal, .decimalC, .decimalCD, .decimalDC]

def keyword : NumericTag → String
  | .integer => "integer"
  | .integerC => "integerc"
  | .integerD => "integerd"
  | .float => "float"
  | .floatC => "floatc"
  | .floatCD => "floatcd"
  | .floatDC => "floatdc"
  | .decimal => "decimal"
  | .decimalC => "decimalc"
  | .decimalCD => "decimalcd"
  | .decimalDC => "decimaldc"

def ofKeyword? (word : String) : Option NumericTag :=
  all.find? fun tag => Text.sameText tag.keyword word

def kind : NumericTag → NumericKind
  | .integer | .integerC | .integerD => .integer
  | .float | .floatC | .floatCD | .floatDC => .float
  | .decimal | .decimalC | .decimalCD | .decimalDC => .decimal

end NumericTag

end ListingGrid
