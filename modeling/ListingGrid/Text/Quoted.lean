import ListingGrid.Text.Ascii
import ListingGrid.Unicode.DerivedProperty

/-!
# Quoted texts

A text in double quotes on one line: quotes, backslashes and control
characters are written with a backslash, and so is every other character that
would not be seen on its own.
-/

set_option autoImplicit false

namespace ListingGrid.Text

def isHiddenChar (c : Char) : Bool := c != ' ' && CharSet.hidden.contains c

def quotedChar (c : Char) : List Char :=
  match c with
  | '"' => ['\\', '"']
  | '\\' => ['\\', '\\']
  | '\n' => ['\\', 'n']
  | '\r' => ['\\', 'r']
  | '\t' => ['\\', 't']
  | '\x00' => ['\\', '0']
  | _ =>
    if isHiddenChar c then '\\' :: 'u' :: '\x7b' :: hexadecimalDigits c.toNat ++ ['\x7d']
    else [c]

def quoted (s : String) : String :=
  String.ofList ('"' :: s.toList.flatMap quotedChar ++ ['"'])

end ListingGrid.Text
