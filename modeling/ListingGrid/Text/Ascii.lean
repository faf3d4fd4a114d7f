/-!
# ASCII letters, digits and word characters

Keywords, cell addresses and numbers are spelled in ASCII, so letter case and
character classes here know ASCII alone. Everything works on lists of
characters; `String` forms stand beside them where values are compared.
-/

set_option autoImplicit false

namespace ListingGrid.Text

def isLower (c : Char) : Bool := 'a' ≤ c && c ≤ 'z'

def isUpper (c : Char) : Bool := 'A' ≤ c && c ≤ 'Z'

def isLetter (c : Char) : Bool := isLower c || isUpper c

def isDigit (c : Char) : Bool := '0' ≤ c && c ≤ '9'

def isHexDigit (c : Char) : Bool :=
  isDigit c || ('a' ≤ c && c ≤ 'f') || ('A' ≤ c && c ≤ 'F')

def isAlphanumeric (c : Char) : Bool := isLetter c || isDigit c

def isWordChar (c : Char) : Bool := isAlphanumeric c || c == '_'

def upper (c : Char) : Char := if isLower c then Char.ofNat (c.toNat - 32) else c

def lower (c : Char) : Char := if isUpper c then Char.ofNat (c.toNat + 32) else c

def upperAll (s : List Char) : List Char := s.map upper

def lowerAll (s : List Char) : List Char := s.map lower

def sameWord (a b : List Char) : Bool := lowerAll a == lowerAll b

def sameText (a b : String) : Bool := sameWord a.toList b.toList

def digitValue (c : Char) : Nat := c.toNat - '0'.toNat

def hexValue (c : Char) : Nat :=
  if isDigit c then digitValue c
  else if isLower c then c.toNat - 'a'.toNat + 10
  else c.toNat - 'A'.toNat + 10

def decimalValue (digits : List Char) : Nat :=
  digits.foldl (fun n c => 10 * n + digitValue c) 0

def hexadecimalValue (digits : List Char) : Nat :=
  digits.foldl (fun n c => 16 * n + hexValue c) 0

def decimalDigits (n : Nat) : List Char := Nat.toDigits 10 n

def integerText (n : Int) : String :=
  match n with
  | .ofNat m => String.ofList (decimalDigits m)
  | .negSucc m => String.ofList ('-' :: decimalDigits (m + 1))

def naturalText (n : Nat) : String := String.ofList (decimalDigits n)

def hexadecimalDigits (n : Nat) : List Char := Nat.toDigits 16 n

end ListingGrid.Text
