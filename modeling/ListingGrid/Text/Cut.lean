/-!
# Cutting texts

A text is cut at marks, around values and at line feeds. A value is trimmed of the
characters with the Unicode property White_Space, on both sides and nowhere else.
The lines of a text keep their order; what ends a line (a line feed, or a carriage
return and a line feed) belongs to none of them, and a text that ends with a line
feed has no empty last line.
-/

set_option autoImplicit false

namespace ListingGrid.Text

/-- Cuts at the first character that `p` accepts, which is dropped: the text
before it, and the text after it when there is one. -/
def cutAt (p : Char → Bool) (s : List Char) : List Char × Option (List Char) :=
  match s.dropWhile (fun c => !p c) with
  | [] => (s, none)
  | _ :: after => (s.takeWhile (fun c => !p c), some after)

def cutAround? (mark : List Char) : List Char → Option (List Char × List Char)
  | [] => none
  | c :: rest =>
    if mark.isPrefixOf (c :: rest) then some ([], (c :: rest).drop mark.length)
    else (cutAround? mark rest).map fun (a, b) => (c :: a, b)

def isSpace (c : Char) : Bool :=
  let n := c.toNat
  (9 ≤ n && n ≤ 13) || n == 0x20 || n == 0x85 || n == 0xA0 || n == 0x1680 ||
    (0x2000 ≤ n && n ≤ 0x200A) || n == 0x2028 || n == 0x2029 || n == 0x202F ||
    n == 0x205F || n == 0x3000

def trimStart (s : List Char) : List Char := s.dropWhile isSpace

def trimEnd (s : List Char) : List Char := (s.reverse.dropWhile isSpace).reverse

def trim (s : List Char) : List Char := trimEnd (trimStart s)

def trimmed (s : String) : String := String.ofList (trim s.toList)

def dropReturn (line : List Char) : List Char :=
  if line.getLast? = some '\r' then line.dropLast else line

/-- Every line, and whether a line feed ended it. `current` holds the
characters of the open line in reverse order. -/
def splitFeeds : List Char → List Char → List (List Char × Bool)
  | [], current => if current.isEmpty then [] else [(current.reverse, false)]
  | c :: rest, current =>
    if c = '\n' then (current.reverse, true) :: splitFeeds rest []
    else splitFeeds rest (c :: current)

/-- The lines of a text; a carriage return is dropped only in front of a line
feed. -/
def lines (text : List Char) : List (List Char) :=
  (splitFeeds text []).map fun (line, ended) => if ended then dropReturn line else line

def lineNumber (before : List Char) : Nat := before.count '\n' + 1

/-- One more than the number of characters after the last line feed. -/
def columnNumber (before : List Char) : Nat :=
  (before.reverse.takeWhile (· != '\n')).length + 1

end ListingGrid.Text
