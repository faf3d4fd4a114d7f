import ListingGrid.Files.Path
import ListingGrid.Output.Format

/-!
# Names of output files

An output is named for the stem of its listing, behind a time stamp and in front of
the listing's extension where these are asked for. The name is a text, in which
replacement characters stand for the bytes of the stem and of the extension that
are not valid UTF-8.
-/

set_option autoImplicit false

namespace ListingGrid

structure TimeStamp where
  year : Nat
  month : Nat
  day : Nat
  hour : Nat
  minute : Nat
  second : Nat
  deriving DecidableEq, Repr

namespace TimeStamp

/-- The moment some seconds after the beginning of 1970, in universal time.
Years are counted from March on here, so that leap days are at their ends, and
400 years have 146097 days. -/
def ofSeconds (seconds : Nat) : TimeStamp :=
  let days := seconds / 86400 + 719468
  let dayOfEra := days % 146097
  let yearOfEra := (dayOfEra - dayOfEra / 1460 + dayOfEra / 36524 - dayOfEra / 146096) / 365
  let dayOfYear := dayOfEra - (365 * yearOfEra + yearOfEra / 4 - yearOfEra / 100)
  let monthFromMarch := (5 * dayOfYear + 2) / 153
  let month := if monthFromMarch < 10 then monthFromMarch + 3 else monthFromMarch - 9
  { year := 400 * (days / 146097) + yearOfEra + (if month ≤ 2 then 1 else 0)
    month
    day := dayOfYear - (153 * monthFromMarch + 2) / 5 + 1
    hour := seconds / 3600 % 24
    minute := seconds / 60 % 60
    second := seconds % 60 }

def padded (width n : Nat) : List Char :=
  let digits := Text.decimalDigits n
  List.replicate (width - digits.length) '0' ++ digits

/-- Date and time, with an underscore after either. -/
def text (t : TimeStamp) : List Char :=
  padded 4 t.year ++ padded 2 t.month ++ padded 2 t.day ++ '_' ::
    padded 2 t.hour ++ padded 2 t.minute ++ padded 2 t.second ++ ['_']

end TimeStamp

def outputFileName (listing : Path) (format : OutputFormat) (stamp : Option TimeStamp)
    (keepExtension : Bool) : String :=
  let stamp := match stamp with
    | some t => t.text
    | none => []
  let stem := (listing.stem?.map Machine.utf8Text).getD []
  let extension := match keepExtension, listing.extension? with
    | true, some extension => '.' :: Machine.utf8Text extension
    | _, _ => []
  String.ofList (stamp ++ stem ++ extension ++ '.' :: format.extension.toList)

structure OutputNaming where
  directory : Path
  format : OutputFormat
  timeStamp : Bool
  keepExtension : Bool
  deriving DecidableEq, Repr

namespace OutputNaming

def path (naming : OutputNaming) (listing : Path) (now : TimeStamp) : Path :=
  let stamp := if naming.timeStamp then some now else none
  .join naming.directory (.ofText
    (outputFileName listing naming.format stamp naming.keepExtension))

end OutputNaming

end ListingGrid
