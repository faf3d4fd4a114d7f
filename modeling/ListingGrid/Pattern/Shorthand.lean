import ListingGrid.Unicode.DerivedProperty

/-!
# Sets with short names

The sets that a letter behind a backslash stands for, and those named between
`[:` and `:]`.
-/

set_option autoImplicit false

namespace ListingGrid.CharSet

def ofCharRanges (ranges : List (Char × Char)) : CharSet :=
  ⟨ranges.map fun (a, b) => (a.toNat, b.toNat)⟩

def digit (unicode : Bool) : CharSet :=
  if unicode then decimalDigit else ofCharRanges [('0', '9')]

def space (unicode : Bool) : CharSet :=
  if unicode then whiteSpace else ofCharRanges [('\t', '\r'), (' ', ' ')]

def word (unicode : Bool) : CharSet :=
  if unicode then wordChar else ofCharRanges [('0', '9'), ('A', 'Z'), ('_', '_'), ('a', 'z')]

def named? : String → Option CharSet
  | "alnum" => some (ofCharRanges [('0', '9'), ('A', 'Z'), ('a', 'z')])
  | "alpha" => some (ofCharRanges [('A', 'Z'), ('a', 'z')])
  | "ascii" => some (range 0 0x7F)
  | "blank" => some (ofCharRanges [('\t', '\t'), (' ', ' ')])
  | "cntrl" => some ⟨[(0, 0x1F), (0x7F, 0x7F)]⟩
  | "digit" => some (ofCharRanges [('0', '9')])
  | "graph" => some (ofCharRanges [('!', '~')])
  | "lower" => some (ofCharRanges [('a', 'z')])
  | "print" => some (ofCharRanges [(' ', '~')])
  | "punct" => some (ofCharRanges [('!', '/'), (':', '@'), ('[', '`'), ('\x7b', '~')])
  | "space" => some (ofCharRanges [('\t', '\r'), (' ', ' ')])
  | "upper" => some (ofCharRanges [('A', 'Z')])
  | "word" => some (word false)
  | "xdigit" => some (ofCharRanges [('0', '9'), ('A', 'F'), ('a', 'f')])
  | _ => none

end ListingGrid.CharSet
