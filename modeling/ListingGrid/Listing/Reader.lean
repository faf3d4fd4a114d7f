import ListingGrid.Files.Fault
import ListingGrid.Listing.Decoder
import ListingGrid.Text.Cut

/-!
# Reading listings line by line

A byte source is asked for one block after the other. An interruption is not
an answer, an empty block is the end, and any other failure ends the reading
after the lines that were complete. The text is cut at line feeds; a carriage
return at the end of a piece is dropped, also in the last one, and there is no
last piece without characters.
-/

set_option autoImplicit false

namespace ListingGrid

/-- What a byte source answers when it is asked for a block. -/
inductive Answer where
  | block (bytes : List Nat)
  | interrupted
  | failed (cause : FileError)
  deriving DecidableEq, Repr

inductive Item where
  | line (text : String)
  | malformed
  deriving DecidableEq, Repr

/-- The items of a listing, and why there are no more of them. -/
structure Reading where
  items : List Item
  failure : Option FileError
  deriving DecidableEq, Repr

def Item.text? : Item → Option String
  | .line text => some text
  | .malformed => none

def Reading.lines (reading : Reading) : List String := reading.items.filterMap Item.text?

theorem Reading.lines_map (lines : List String) (failure : Option FileError) :
    (⟨lines.map .line, failure⟩ : Reading).lines = lines := by
  induction lines with
  | nil => rfl
  | cons line more ih =>
    rw [Reading.lines, List.map_cons, List.filterMap_cons]
    exact congrArg (line :: ·) ih

namespace Reading

def lineOf (reversed : List Char) : String :=
  String.ofList (match reversed with
    | '\r' :: rest => rest.reverse
    | _ => reversed.reverse)

/-- Cuts characters at line feeds. `current` is the open line in reverse order
and `lines` the complete ones, the last first; both are updated. -/
def cut : List Char → List Char → List String → List String × List Char
  | [], current, lines => (lines, current)
  | c :: rest, current, lines =>
    if c = '\n' then cut rest [] (lineOf current :: lines) else cut rest (c :: current) lines

def finish (decoder : Decoder) (current : List Char) : Reading :=
  let (chars, malformed) := decoder.finish
  let (lines, current) := cut chars current []
  ⟨lines.reverse.map .line ++ (if malformed then [.malformed] else []) ++
    (if current.isEmpty then [] else [.line (lineOf current)]), none⟩

def readFrom (decoder : Decoder) (current : List Char) : List Answer → Reading
  | [] => finish decoder current
  | .interrupted :: more => readFrom decoder current more
  | .failed cause :: _ => ⟨[], some cause⟩
  | .block bytes :: more =>
    if bytes.isEmpty then finish decoder current
    else
      let (decoder, chars) := decoder.feed bytes
      let (lines, current) := cut chars current []
      let rest := readFrom decoder current more
      ⟨lines.reverse.map .line ++ rest.items, rest.failure⟩

def ofAnswers (encoding : Encoding) (answers : List Answer) : Reading :=
  readFrom (Decoder.start encoding) [] answers

end Reading

end ListingGrid
