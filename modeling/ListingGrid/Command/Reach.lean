import ListingGrid.Command.Basic

/-!
# What a command can reach

The places that decide what a command does are those that its paths lead
through: the files that it reads, the files and directories that it writes,
and the directories on the way. What it did to them is told by the entries
that are not as they were.
-/

set_option autoImplicit false

namespace ListingGrid

namespace Store

/-- The places on the way of pieces from a place on, whose own pieces are given
in reverse order. -/
def placesFrom : List Path.Piece → List Path.Piece → List Place
  | _, [] => []
  | reached, piece :: more =>
    if piece = Path.parentPiece then placesFrom (reached.drop 1) more
    else (piece :: reached).reverse :: placesFrom (piece :: reached) more

def placesOn (store : Store) (path : Path) : List Place :=
  placesFrom (store.base path).reverse path.pieces

def changesSince (store before : Store) : List (Place × Entry) :=
  store.entries.filter fun (place, entry) => before.entryAt? place != some entry

end Store

namespace Command

def ProcessArguments.paths (arguments : ProcessArguments) (clock : Clock) : List Path :=
  [arguments.definition, arguments.outputDirectory] ++ arguments.listings ++
    arguments.listings.mapIdx fun k listing =>
      (runOptions arguments).naming.path listing (clock k)

def Task.paths (task : Task) (clock : Clock) : List Path :=
  match task with
  | .process arguments => arguments.paths clock
  | .check definition => [definition]
  | .formula file => [file]

def tellsTime (words : List String) : Bool :=
  match Arguments.ofWords words with
  | .ok { task := .process arguments, .. } => arguments.timeStamp
  | _ => false

def pathsOf (words : List String) (clock : Clock) : List Path :=
  match Arguments.ofWords words with
  | .ok arguments => arguments.log.file.toList ++ arguments.task.paths clock
  | .error _ => []

end Command

end ListingGrid
