import ListingGrid.Listing.Decoder

/-!
# Paths

The system takes any bytes but slashes and zeros for the name of a file, so a path
need not be the text of anything. Its pieces stand between slashes. Empty pieces
and single dots say nothing; two dots lead back to the directory before. A file
name is made of a stem and, behind its last dot, an extension; a dot in front
belongs to the stem.
-/

set_option autoImplicit false

namespace ListingGrid

structure Path where
  bytes : List Nat
  deriving DecidableEq, Repr, Inhabited

namespace Path

abbrev Piece : Type := List Nat

def slash : Nat := 0x2F

def dot : Nat := 0x2E

def ofText (text : String) : Path := ⟨Text.bytes text⟩

def text (path : Path) : String := String.ofList (Machine.utf8Text path.bytes)

def isEmpty (path : Path) : Bool := path.bytes.isEmpty

def split : List Nat → List Piece
  | [] => [[]]
  | b :: rest =>
    if b = slash then [] :: split rest
    else match split rest with
      | [] => [[b]]
      | piece :: more => (b :: piece) :: more

def pieces (path : Path) : List Piece :=
  (split path.bytes).filter fun piece => !piece.isEmpty && piece != [dot]

def parentPiece : Piece := [dot, dot]

def isRooted (path : Path) : Bool := path.bytes.head? == some slash

def namesDirectory (path : Path) : Bool :=
  match (split path.bytes).getLast? with
  | some piece => piece.isEmpty || piece == [dot] || piece == parentPiece
  | none => false

def lastPart? (path : Path) : Option Piece :=
  ((split path.bytes).filter (!·.isEmpty)).getLast?

def endsInDot (path : Path) : Bool := path.lastPart? == some [dot]

def endsInSlash (path : Path) : Bool :=
  path.bytes.getLast? == some slash &&
    match path.lastPart? with
    | some part => part != [dot] && part != parentPiece
    | none => false

def fileName? (path : Path) : Option Piece :=
  match path.pieces.getLast? with
  | some piece => if piece = parentPiece then none else some piece
  | none => none

def splitName (name : Piece) : Piece × Option Piece :=
  let extension := (name.reverse.takeWhile (· != dot)).reverse
  let stem := name.take (name.length - extension.length - 1)
  if stem.isEmpty || extension.length = name.length then (name, none) else (stem, some extension)

def stem? (path : Path) : Option Piece :=
  path.fileName?.map fun name => (splitName name).1

def extension? (path : Path) : Option Piece :=
  path.fileName?.bind fun name => (splitName name).2

def join (directory file : Path) : Path :=
  if file.isRooted || directory.isEmpty then file
  else if directory.bytes.getLast? = some slash then ⟨directory.bytes ++ file.bytes⟩
  else ⟨directory.bytes ++ slash :: file.bytes⟩

def ofPieces (pieces : List Piece) : Path := ⟨[slash].intercalate pieces⟩

end Path

end ListingGrid
