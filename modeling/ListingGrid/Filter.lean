import ListingGrid.Pattern.Reader

/-!
# Line filters

A filter is a pattern that is tried at the start of a line. The pattern text
is put into a group behind the mark for the start, and the whole is read as
one pattern.
-/

set_option autoImplicit false

namespace ListingGrid

/-- A pattern text together with the pattern that it stands for in its place. -/
structure LineFilter where
  pattern : String
  compiled : Pattern

namespace LineFilter

def anchored (pattern : List Char) : List Char := "^(?:".toList ++ pattern ++ [')']

/-- Fails when the anchored text is not a pattern. -/
def ofPattern (pattern : String) : Except PatternError LineFilter := do
  return ⟨pattern, ← Pattern.ofChars (anchored pattern.toList)⟩

def isMatch (filter : LineFilter) (line : String) : Bool :=
  filter.compiled.isMatch line.toList

/-- The filter as it stands in a report definition. -/
def text (filter : LineFilter) : String := "\"" ++ filter.pattern ++ "\""

end LineFilter

end ListingGrid
