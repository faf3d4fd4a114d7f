import ListingGrid.Encoding

/-!
# Decoding listings

Bytes become characters one at a time, so it makes no difference how a listing
is divided into blocks. A sequence that is malformed is replaced by U+FFFD,
and the decoder remembers that there was one. A byte order mark is looked for
at the beginning, where the encoding has one.
-/

set_option autoImplicit false

namespace ListingGrid

def replacement : Char := '\ufffd'

inductive Machine where
  /-- UTF-8: continuation bytes that are missing, the bounds of the next one,
  and the bits read so far. -/
  | utf8 (missing low high bits : Nat)
  | western
  /-- UTF-16: the byte order, the first byte of a pair, a leading surrogate. -/
  | utf16 (bigEndian : Bool) (byte : Option Nat) (surrogate : Option Nat)
  deriving DecidableEq, Repr

namespace Machine

def utf8Start : Machine := .utf8 0 0x80 0xBF 0

def utf16Start (bigEndian : Bool) : Machine := .utf16 bigEndian none none

def westernUpper : List Nat :=
  [0x20AC, 0x81, 0x201A, 0x192, 0x201E, 0x2026, 0x2020, 0x2021,
    0x2C6, 0x2030, 0x160, 0x2039, 0x152, 0x8D, 0x17D, 0x8F,
    0x90, 0x2018, 0x2019, 0x201C, 0x201D, 0x2022, 0x2013, 0x2014,
    0x2DC, 0x2122, 0x161, 0x203A, 0x153, 0x9D, 0x17E, 0x178]

def westernChar (b : Nat) : Char :=
  if 0x80 ≤ b ∧ b ≤ 0x9F then Char.ofNat (westernUpper[b - 0x80]?.getD b) else Char.ofNat b

def utf8First (b : Nat) : Machine × List Char :=
  if b < 0x80 then (utf8Start, [Char.ofNat b])
  else if 0xC2 ≤ b ∧ b ≤ 0xDF then (.utf8 1 0x80 0xBF (b - 0xC0), [])
  else if b = 0xE0 then (.utf8 2 0xA0 0xBF 0, [])
  else if b = 0xED then (.utf8 2 0x80 0x9F 0xD, [])
  else if 0xE1 ≤ b ∧ b ≤ 0xEF then (.utf8 2 0x80 0xBF (b - 0xE0), [])
  else if b = 0xF0 then (.utf8 3 0x90 0xBF 0, [])
  else if b = 0xF4 then (.utf8 3 0x80 0x8F 4, [])
  else if 0xF1 ≤ b ∧ b ≤ 0xF3 then (.utf8 3 0x80 0xBF (b - 0xF0), [])
  else (utf8Start, [replacement])

def unitAlone (bigEndian : Bool) (unit : Nat) : Machine × List Char :=
  if 0xD800 ≤ unit ∧ unit ≤ 0xDBFF then (.utf16 bigEndian none (some unit), [])
  else if 0xDC00 ≤ unit ∧ unit ≤ 0xDFFF then (utf16Start bigEndian, [replacement])
  else (utf16Start bigEndian, [Char.ofNat unit])

/-- A unit of UTF-16. A leading surrogate that is waiting for a trailing one in
vain is malformed. -/
def unit (bigEndian : Bool) (surrogate : Option Nat) (u : Nat) : Machine × List Char :=
  match surrogate with
  | none => unitAlone bigEndian u
  | some lead =>
    if 0xDC00 ≤ u ∧ u ≤ 0xDFFF then
      (utf16Start bigEndian, [Char.ofNat (0x10000 + (lead - 0xD800) * 0x400 + (u - 0xDC00))])
    else
      let (machine, chars) := unitAlone bigEndian u
      (machine, replacement :: chars)

def step : Machine → Nat → Machine × List Char
  | .utf8 0 _ _ _, b => utf8First b
  | .utf8 (missing + 1) low high bits, b =>
    if low ≤ b ∧ b ≤ high then
      let bits := bits * 0x40 + (b - 0x80)
      if missing = 0 then (utf8Start, [Char.ofNat bits])
      else (.utf8 missing 0x80 0xBF bits, [])
    else
      let (machine, chars) := utf8First b
      (machine, replacement :: chars)
  | .western, b => (.western, [westernChar b])
  | .utf16 bigEndian none surrogate, b => (.utf16 bigEndian (some b) surrogate, [])
  | .utf16 bigEndian (some first) surrogate, b =>
    unit bigEndian surrogate (if bigEndian then first * 0x100 + b else b * 0x100 + first)

def finish : Machine → List Char
  | .utf8 0 _ _ _ => []
  | .utf8 _ _ _ _ => [replacement]
  | .western => []
  | .utf16 _ none none => []
  | .utf16 _ _ _ => [replacement]

def decode (machine : Machine) : List Nat → List Char
  | [] => machine.finish
  | b :: rest => (machine.step b).2 ++ (machine.step b).1.decode rest

/-- The text of bytes in UTF-8, in which replacement characters stand for what is
malformed. No mark is looked for. -/
def utf8Text (bytes : List Nat) : List Char := utf8Start.decode bytes

/-- Whether the step or the end met malformed bytes. A replacement character
that was itself encoded is not malformed. -/
def isMalformedStep (machine : Machine) (b : Nat) : Bool :=
  match machine with
  | .utf8 0 _ _ _ => (utf8First b).2 == [replacement]
  | .utf8 (_ + 1) low high _ => !(low ≤ b && b ≤ high)
  | .western => false
  | .utf16 _ none _ => false
  | .utf16 bigEndian (some first) surrogate =>
    let u := if bigEndian then first * 0x100 + b else b * 0x100 + first
    let isTrail := 0xDC00 ≤ u && u ≤ 0xDFFF
    surrogate.isSome != isTrail

end Machine

/-- A decoder: the bytes held back while they may be a byte order mark, then the
machine that reads. -/
inductive Decoder where
  | sniffing (encoding : Encoding) (held : List Nat)
  | decoding (machine : Machine) (malformed : Bool)
  deriving DecidableEq, Repr

namespace Decoder

def marks : Encoding → List (List Nat × Machine)
  | .utf8 => [([0xEF, 0xBB, 0xBF], Machine.utf8Start)]
  | .utf16 =>
    [([0xEF, 0xBB, 0xBF], Machine.utf8Start), ([0xFE, 0xFF], Machine.utf16Start true),
      ([0xFF, 0xFE], Machine.utf16Start false)]
  | .ascii | .latin1 | .utf16le => []

def machine : Encoding → Machine
  | .utf8 => Machine.utf8Start
  | .ascii | .latin1 => .western
  | .utf16 | .utf16le => Machine.utf16Start false

def start (encoding : Encoding) : Decoder := .sniffing encoding []

def run (machine : Machine) (malformed : Bool) : List Nat → Machine × Bool × List Char
  | [] => (machine, malformed, [])
  | b :: rest =>
    let (next, chars) := machine.step b
    let (last, malformed, more) := run next (malformed || machine.isMalformedStep b) rest
    (last, malformed, chars ++ more)

def step : Decoder → Nat → Decoder × List Char
  | .sniffing encoding held, b =>
    let held := held ++ [b]
    match (marks encoding).find? fun (mark, _) => mark == held with
    | some (_, machine) => (.decoding machine false, [])
    | none =>
      if (marks encoding).any fun (mark, _) => held.isPrefixOf mark then
        (.sniffing encoding held, [])
      else
        let (machine, malformed, chars) := run (machine encoding) false held
        (.decoding machine malformed, chars)
  | .decoding machine malformed, b =>
    let (next, chars) := machine.step b
    (.decoding next (malformed || machine.isMalformedStep b), chars)

/-- Reads a block of bytes; `decoded` holds the characters before it in reverse
order. -/
def feedOnto (decoder : Decoder) (decoded : List Char) : List Nat → Decoder × List Char
  | [] => (decoder, decoded)
  | b :: rest =>
    let (next, chars) := decoder.step b
    feedOnto next (chars.reverse ++ decoded) rest

def feed (decoder : Decoder) (block : List Nat) : Decoder × List Char :=
  let (next, decoded) := feedOnto decoder [] block
  (next, decoded.reverse)

/-- The characters that the end of the bytes still yields, and whether the bytes
were malformed anywhere. -/
def finish : Decoder → List Char × Bool
  | .sniffing encoding held =>
    let (machine, malformed, chars) := run (machine encoding) false held
    (chars ++ machine.finish, malformed || !machine.finish.isEmpty)
  | .decoding machine malformed => (machine.finish, malformed || !machine.finish.isEmpty)

end Decoder

end ListingGrid
