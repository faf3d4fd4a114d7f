import ListingGrid.Report.Basic

/-!
# Markup

Elements are kept as a tree and written with an indentation of two spaces. An
element that holds text stands on one line, so no white space is added to the
text. Five characters are written as entities, in texts and in attributes.
-/

set_option autoImplicit false

namespace ListingGrid

inductive Markup where
  | leaf (tag : String) (attributes : List (String × String)) (text : String)
  | single (tag : String) (attributes : List (String × String))
  | node (tag : String) (attributes : List (String × String)) (children : List Markup)

namespace Markup

def escapeChar (c : Char) : List Char :=
  match c with
  | '<' => "&lt;".toList
  | '>' => "&gt;".toList
  | '&' => "&amp;".toList
  | '\'' => "&apos;".toList
  | '"' => "&quot;".toList
  | _ => [c]

def escape (s : String) : List Char := s.toList.flatMap escapeChar

def attributeText (pair : String × String) : List Char :=
  ' ' :: pair.1.toList ++ '=' :: '"' :: escape pair.2 ++ ['"']

def tagText (tag : String) (attributes : List (String × String)) : List Char :=
  tag.toList ++ attributes.flatMap attributeText

def closingTag (tag : String) : List Char := '<' :: '/' :: tag.toList ++ ['>']

def newLine (depth : Nat) : List Char := '\n' :: List.replicate (2 * depth) ' '

mutual

def render (depth : Nat) : Markup → List Char
  | .leaf tag attributes text =>
    newLine depth ++ '<' :: tagText tag attributes ++ '>' :: escape text ++ closingTag tag
  | .single tag attributes => newLine depth ++ '<' :: tagText tag attributes ++ ['/', '>']
  | .node tag attributes children =>
    newLine depth ++ '<' :: tagText tag attributes ++ '>' :: renderAll (depth + 1) children ++
      newLine depth ++ closingTag tag

def renderAll (depth : Nat) : List Markup → List Char
  | [] => []
  | m :: more => render depth m ++ renderAll depth more

end

/-- A document: its declaration and the root element. -/
def document (declaration : String) (root : Markup) : List Char :=
  declaration.toList ++ render 0 root

end Markup

end ListingGrid
