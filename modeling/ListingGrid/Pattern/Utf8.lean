import ListingGrid.Unicode.CharSet

/-!
# Ranges of characters as ranges of bytes

In UTF-8 a character has one to four bytes. The characters from one code point
to another are split into pieces, in each of which every byte varies on its own,
so that a piece is a sequence of byte ranges.
-/

set_option autoImplicit false

namespace ListingGrid.Utf8

abbrev ByteRange := Nat × Nat

def block (n : Nat) : Nat := Nat.pow 64 n

/-- Splits a range of characters with equally many bytes so that the byte ranges
of each piece are independent. The borders of the range agree with those of
blocks of `level - 1` bytes; `levels` levels are left. -/
def split : (levels level first last : Nat) → List (Nat × Nat)
  | 0, _, first, last => [(first, last)]
  | levels + 1, level, first, last =>
    let size := block level
    if first / size = last / size then [(first, last)]
    else
      let middle := if first % size = 0 then first else (first / size + 1) * size
      let head := if first % size = 0 then [] else [(first, middle - 1)]
      if middle / size = last / size then
        head ++ [(middle, last)]
      else if last % size = size - 1 then head ++ split levels (level + 1) middle last
      else
        let tail := last / size * size
        head ++ split levels (level + 1) middle (tail - 1) ++ [(tail, last)]

def widths : List (Nat × Nat) :=
  [(0, 0x7F), (0x80, 0x7FF), (0x800, 0xD7FF), (0xE000, 0xFFFF), (0x10000, 0x10FFFF)]

def bytes (n : Nat) : List Nat :=
  let trail (k : Nat) := 0x80 + n / block k % 64
  if n < 0x80 then [n]
  else if n < 0x800 then [0xC0 + n / block 1, trail 0]
  else if n < 0x10000 then [0xE0 + n / block 2, trail 1, trail 0]
  else [0xF0 + n / block 3, trail 2, trail 1, trail 0]

def sequences (r : Nat × Nat) : List (List ByteRange) :=
  let parts := widths.filterMap fun w => CharSet.overlap? w r
  let pieces := parts.flatMap fun (a, b) => if b < 0x80 then [(a, b)] else split 3 1 a b
  pieces.map fun (a, b) => (bytes a).zip (bytes b)

def ofSet (set : CharSet) : List (List ByteRange) := set.ranges.flatMap sequences

def ofText (text : List Char) : List Nat := text.flatMap fun c => bytes c.toNat

end ListingGrid.Utf8
