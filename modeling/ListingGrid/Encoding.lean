import ListingGrid.Text.Ascii

/-!
# Encodings

Texts are UTF-8 wherever they become bytes; listings may have another encoding.
-/

set_option autoImplicit false

namespace ListingGrid.Text

def bytes (s : String) : List Nat := s.toUTF8.toList.map (·.toNat)

def ofBytes? (bytes : List Nat) : Option String :=
  String.fromUTF8? ⟨(bytes.map UInt8.ofNat).toArray⟩

end ListingGrid.Text

namespace ListingGrid

inductive Encoding where
  | utf8
  | ascii
  | latin1
  | utf16
  | utf16le
  deriving DecidableEq, Repr

namespace Encoding

def all : List Encoding := [.utf8, .ascii, .latin1, .utf16, .utf16le]

def label : Encoding → String
  | .utf8 => "utf-8"
  | .ascii => "ascii"
  | .latin1 => "latin-1"
  | .utf16 => "utf-16"
  | .utf16le => "utf-16-le"

def ofLabel? (label : String) : Option Encoding :=
  if Text.sameText label "utf_16_le" then some .utf16le
  else all.find? fun encoding => Text.sameText encoding.label label

end Encoding

end ListingGrid
