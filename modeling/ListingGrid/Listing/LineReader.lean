import ListingGrid.Listing.Reader

/-!
# Asking for one line after the other

A reader of lines keeps the decoded text that it did not give out yet and asks
its source for a further block only when no line of that text is complete. At
the end of the source the rest of the text is the last line. A failure is given
out in place of a line; it lets go of the source and of the text, complete
lines having been given out before.
-/

set_option autoImplicit false

namespace ListingGrid

inductive LineReader where
  /-- The answers that the source has not given yet, and the text that was not
  given out yet. -/
  | reading (source : List Answer) (decoder : Decoder) (unread : List Char)
  | ended (unread : List Char)

namespace LineReader

def start (encoding : Encoding) (source : List Answer) : LineReader :=
  .reading source (Decoder.start encoding) []

def cutLine? : List Char → Option (List Char × List Char)
  | [] => none
  | c :: rest =>
    if c = '\n' then some ([], rest)
    else (cutLine? rest).map fun (line, behind) => (c :: line, behind)

def lineText (line : List Char) : String := String.ofList (Text.dropReturn line)

def nextEnded (unread : List Char) : Option (Except FileError String) × LineReader :=
  match cutLine? unread with
  | some (line, behind) => (some (.ok (lineText line)), .ended behind)
  | none => (if unread.isEmpty then none else some (.ok (lineText unread)), .ended [])

def nextFrom (decoder : Decoder) (unread : List Char) (source : List Answer) :
    Option (Except FileError String) × LineReader :=
  match cutLine? unread with
  | some (line, behind) => (some (.ok (lineText line)), .reading source decoder behind)
  | none =>
    match source with
    | [] => nextEnded (unread ++ decoder.finish.1)
    | .interrupted :: more => nextFrom decoder unread more
    | .failed cause :: _ => (some (.error cause), .ended [])
    | .block bytes :: more =>
      if bytes.isEmpty then nextEnded (unread ++ decoder.finish.1)
      else nextFrom (decoder.feed bytes).1 (unread ++ (decoder.feed bytes).2) more

def next : LineReader → Option (Except FileError String) × LineReader
  | .reading source decoder unread => nextFrom decoder unread source
  | .ended unread => nextEnded unread

/-- What the reader gives when it was asked a number of times before. -/
def call : Nat → LineReader → Option (Except FileError String)
  | 0, r => r.next.1
  | k + 1, r => call k r.next.2

end LineReader

end ListingGrid
