import ListingGrid.Command.Reach

/-!
# The program

Reads what the words lead to, does what they say and writes what has changed.
-/

set_option autoImplicit false

namespace ListingGrid.Command

def placePath (place : Place) : String := "/" ++ (Path.ofPieces place).text

def readEntry (place : Place) : IO (Option Entry) := do
  try
    let read ← IO.FS.readBinFile (placePath place)
    return some (.file (.bytes (read.toList.map (·.toNat))))
  catch
    | .inappropriateType .. => return some .directory
    | _ => return none

def readPlaces (store : Store) : List Place → IO Store
  | [] => return store
  | place :: more => do
    match ← readEntry place with
    | some entry => readPlaces (store.put place entry) more
    | none => readPlaces store more

def writeEntry (place : Place) : Entry → IO Unit
  | .directory => IO.FS.createDirAll (placePath place)
  | .file contents =>
    IO.FS.writeBinFile (placePath place) ⟨(contents.toBytes.map UInt8.ofNat).toArray⟩

def currentMoment : IO TimeStamp := do
  let (_, path) ← IO.FS.createTempFile
  let dated ← path.metadata
  IO.FS.removeFile path
  return .ofSeconds dated.modified.sec.toNat

def performHere (words : List String) : IO UInt32 := do
  let directory ← IO.currentDir
  let now ← if tellsTime words then currentMoment else pure (.ofSeconds 0)
  let clock : Clock := fun _ => now
  let bare := Store.empty (Path.ofText directory.toString).pieces
  let store ← readPlaces bare ((pathsOf words clock).flatMap bare.placesOn).eraseDups
  let outcome := execute words ⟨store, ← IO.getEnv "RUST_LOG", clock⟩
  for (place, entry) in outcome.store.changesSince store do
    writeEntry place entry
  for printed in outcome.printed do
    for line in printed.lines do
      IO.println line
  IO.eprint outcome.errors
  return outcome.exitCode.toUInt32

end ListingGrid.Command

def main (words : List String) : IO UInt32 := ListingGrid.Command.performHere words
