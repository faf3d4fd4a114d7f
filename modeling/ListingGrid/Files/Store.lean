import ListingGrid.Encoding
import ListingGrid.Files.Fault
import ListingGrid.Files.Path
import ListingGrid.Listing.Reader
import ListingGrid.Sheet.Document

/-!
# Files

The files that a run can see, each at its place below the root. Paths that are
not rooted lead on from the working directory. Files and directories are found
piece by piece: every piece but the last one has to be a directory. A directory
can be opened like a file but not read.
-/

set_option autoImplicit false

namespace ListingGrid

abbrev Place : Type := List Path.Piece

inductive Contents where
  | bytes (bytes : List Nat)
  | workbook (book : Workbook Sheet)
  deriving DecidableEq, Repr

inductive Entry where
  | file (contents : Contents)
  | directory
  deriving DecidableEq, Repr

/-- What is at places. The root is a directory. -/
structure Store where
  workingDirectory : Place
  entries : List (Place × Entry)
  deriving Repr

namespace Contents

def ofText (text : String) : Contents := .bytes (Text.bytes text)

def toBytes : Contents → List Nat
  | .bytes raw => raw
  | .workbook book => book.documentBytes

end Contents

namespace Store

def entryAt? (store : Store) (place : Place) : Option Entry :=
  if place.isEmpty then some .directory else store.entries.lookup place

def put (store : Store) (place : Place) (entry : Entry) : Store :=
  if store.entries.any (·.1 == place) then
    { store with entries := store.entries.map fun (other, old) =>
        if other = place then (other, entry) else (other, old) }
  else { store with entries := store.entries ++ [(place, entry)] }

def putBelow (store : Store) (place : Place) (entry : Entry) : Store :=
  let above := (List.range (place.length - 1)).map fun n => place.take (n + 1)
  (above.foldl (fun store directory => store.put directory .directory) store).put place entry

def empty (workingDirectory : Place) : Store :=
  (⟨workingDirectory, []⟩ : Store).putBelow workingDirectory .directory

def base (store : Store) (path : Path) : Place :=
  if path.isRooted then [] else store.workingDirectory

def nameLimit : Nat := 255

def pathLimit : Nat := 4096

def isTooLong (piece : Path.Piece) : Bool := nameLimit < piece.length

/-- Follows pieces from a directory, whose own pieces are given in reverse
order. Each piece has to be a directory, except the last one if `mustEnter` is
not set, which may be anything or nothing. Nothing is above the root. -/
def follow (store : Store) (mustEnter : Bool) :
    List Path.Piece → List Path.Piece → Except FileError Place
  | reached, [] => .ok reached.reverse
  | reached, piece :: more =>
    if piece = Path.parentPiece then follow store mustEnter (reached.drop 1) more
    else if isTooLong piece then .error .nameTooLong
    else if more.isEmpty && !mustEnter then .ok (piece :: reached).reverse
    else
      match store.entryAt? (piece :: reached).reverse with
      | some .directory => follow store mustEnter (piece :: reached) more
      | some (.file _) => .error .notADirectory
      | none => .error .notFound

def followFrom (store : Store) (path : Path) (mustEnter : Bool) (pieces : List Path.Piece) :
    Except FileError Place :=
  store.follow mustEnter (store.base path).reverse pieces

def checkPath (path : Path) : Except FileError Unit :=
  if path.isEmpty then .error .notFound
  else if path.bytes.contains 0 then .error .nulByte
  else if pathLimit ≤ path.bytes.length then .error .nameTooLong
  else .ok ()

def find (store : Store) (path : Path) : Except FileError Place := do
  checkPath path
  store.followFrom path path.namesDirectory path.pieces

def get (store : Store) (path : Path) : Except FileError Entry := do
  let place ← store.find path
  match store.entryAt? place with
  | some entry => return entry
  | none => throw .notFound

def openListing (store : Store) (path : Path) : Except FileError (List Answer) :=
  (store.get path).map fun entry =>
    match entry with
    | .file contents => [.block contents.toBytes]
    | .directory => [.failed .isADirectory]

def readText (store : Store) (path : Path) : Except FileError String := do
  match ← store.get path with
  | .directory => throw .isADirectory
  | .file contents =>
    match Text.ofBytes? contents.toBytes with
    | some text => return text
    | none => throw .invalidText

/-- Finds the place of a file that may be written, new or old. What a slash
stands behind is taken for a directory, whether it is there or not. -/
def findWritable (store : Store) (path : Path) : Except FileError Place := do
  if path.endsInSlash then
    checkPath path
    let _ ← store.followFrom path true path.pieces.dropLast
    throw .isADirectory
  let place ← store.find path
  match store.entryAt? place with
  | some .directory => throw .isADirectory
  | _ => return place

def write (store : Store) (path : Path) (contents : Contents) : Except FileError Store := do
  return store.put (← store.findWritable path) (.file contents)

def append (store : Store) (path : Path) (text : String) : Except FileError Store := do
  let place ← store.findWritable path
  let old := match store.entryAt? place with
    | some (.file contents) => contents.toBytes
    | _ => []
  return store.put place (.file (.bytes (old ++ Text.bytes text)))

/-- Makes the directory that pieces lead to from the beginning of a path, where
there is nothing yet. -/
def makeDirectory (store : Store) (path : Path) (pieces : List Path.Piece) :
    Except FileError Store := do
  let place ← store.followFrom path false pieces
  if (store.entryAt? place).isSome then throw .alreadyExists
  return store.put place .directory

/-- Makes the directory that pieces, given in reverse order, lead to from the
beginning of a path, and first those above it where one of them is missing. A
dot behind the last piece can only be reached in a directory that is there. -/
def makeAbove (store : Store) (path : Path) :
    (dotBehind : Bool) → List Path.Piece → Except FileError Store
  | _, [] => .ok store
  | dotBehind, piece :: above =>
    let pieces := (piece :: above).reverse
    let make (store : Store) : Except FileError Store :=
      match store.followFrom path true pieces with
      | .ok _ => .ok store
      | .error cause => if dotBehind then .error cause else store.makeDirectory path pieces
    match make store with
    | .error .notFound => (makeAbove store path false above).bind make
    | result => result

def makeDirectories (store : Store) (path : Path) : Except FileError Store :=
  if path.isEmpty then .ok store
  else do
    checkPath path
    store.makeAbove path path.endsInDot path.pieces.reverse

def place (store : Store) (path : Path) (entry : Entry) : Store :=
  store.putBelow (store.base path ++ path.pieces) entry

def files (store : Store) : List (Place × Contents) :=
  store.entries.filterMap fun (place, entry) =>
    match entry with
    | .file contents => some (place, contents)
    | .directory => none

def pathBelow? (store : Store) (place : Place) : Option Path :=
  if store.workingDirectory.isPrefixOf place then
    some (.ofPieces (place.drop store.workingDirectory.length))
  else none

end Store

end ListingGrid
