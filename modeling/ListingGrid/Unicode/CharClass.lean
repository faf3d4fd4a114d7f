import ListingGrid.Unicode.CharSet

/-!
# Classes of characters

A class describes a set of characters: by a table of its ranges, or by how it
follows from other classes. The set is made from the description when it is
asked for.
-/

set_option autoImplicit false

namespace ListingGrid.Unicode

inductive CharClass where
  | rows (text : List String)
  | ranges (list : List (Nat × Nat))
  | union (a b : CharClass)
  | inter (a b : CharClass)
  | minus (a b : CharClass)
  | complement (a : CharClass)

namespace CharClass

def none : CharClass := .ranges []

def anyOf (classes : List CharClass) : CharClass := classes.foldr .union none

def set : CharClass → CharSet
  | .rows text => .ofRows text
  | .ranges list => ⟨list⟩
  | .union a b => a.set.union b.set
  | .inter a b => a.set.inter b.set
  | .minus a b => a.set.difference b.set
  | .complement a => a.set.complement

end CharClass

end ListingGrid.Unicode
