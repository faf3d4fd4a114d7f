import ListingGrid.Unicode.DerivedProperty
import ListingGrid.Unicode.Script

/-!
# Parts of text

The classes by which text is cut into characters as they are perceived, into
words and into sentences.
-/

set_option autoImplicit false

namespace ListingGrid.Unicode

def only (code : Nat) : CharClass := .ranges [(code, code)]

def carriageReturn : CharClass := only 0xD

def lineFeed : CharClass := only 0xA

def zeroWidthJoiner : CharClass := only 0x200D

def extending : CharClass := .union graphemeExtend emojiModifier

def prepended : CharClass := .rows
  ["600-605 6DD 70F 890-891 8E2 D4E 110BD 110CD 111C2-111C3 113D1 1193F 11941 11A3A",
   "11A84-11A89 11D46 11F02"]

def controlling : CharClass :=
  .minus
    (.anyOf [lineSeparator, paragraphSeparator, control, format,
      .inter unassigned defaultIgnorableCodePoint])
    (.anyOf [carriageReturn, lineFeed, .rows ["200C-200D"], prepended, extending])

def spacing : CharClass :=
  .minus (.union spacingMark (.rows ["E33 EB3"]))
    (.union extending (.rows
      ["102B-102C 1038 1062-1064 1067-106D 1083 1087-108C 108F 109A-109C 1A61 1A63-1A64 AA7B",
      "AA7D 11720-11721"]))

/-- How many syllables there are with one lead consonant and vowel: one without
and 27 with a tail consonant. -/
def tails : Nat := 28

def openSyllables : List Nat := (List.range 399).map fun k => 0xAC00 + tails * k

def graphemeClusterBreaks : List (List String × CharClass) :=
  [(["cn", "control"], controlling),
    (["cr"], carriageReturn),
    (["ex", "extend"], .minus extending zeroWidthJoiner),
    (["l"], .rows ["1100-115F A960-A97C"]),
    (["lf"], lineFeed),
    (["lv"], .ranges (openSyllables.map fun n => (n, n))),
    (["lvt"], .ranges (openSyllables.map fun n => (n + 1, n + tails - 1))),
    (["pp", "prepend"], prepended),
    (["ri", "regionalindicator"], regionalIndicator),
    (["sm", "spacingmark"], spacing),
    (["t"], .rows ["11A8-11FF D7CB-D7FB"]),
    (["v"], .rows ["1160-11A7 D7B0-D7C6 16D63 16D67-16D6A"]),
    (["zwj"], zeroWidthJoiner)]

def wordExtending : CharClass := .minus (.union extending spacingMark) zeroWidthJoiner

def numberSigns : CharClass := .rows ["600-605 6DD 890-891 8E2 110BD 110CD"]

def digits : CharClass := .anyOf [decimalNumber, .rows ["66B"], numberSigns]

def scriptOf (name : String) : CharClass := (script? name).getD .none

def katakana : CharClass :=
  .minus (.union (scriptOf "katakana") (.rows ["3031-3035 309B-309C 30A0 30FC FF70"]))
    wordExtending

def hebrewLetter : CharClass := .inter (scriptOf "hebrew") otherLetter

def unspaced : CharClass := .rows
  ["E01-E3A E40-E4E E81-E82 E84 E86-E8A E8C-EA3 EA5 EA7-EBD EC0-EC4 EC6 EC8-ECE EDC-EDF",
   "1000-103F 1050-108F 109A-109F 1780-17D3 17D7 17DC-17DD 1950-196D 1970-1974 1980-19AB",
   "19B0-19C9 19DA 19DE-19DF 1A20-1A5E 1A60-1A7C 1AA0-1AAD A9E0-A9EF A9FA-A9FE AA60-AAC2",
   "AADB-AADF 11700-1171A 1171D-1172B 1173A-1173B 1173F-11746"]

def wordLetter : CharClass :=
  .minus
    (.union alphabetic (.rows
      ["B8 2C2-2C5 2D2-2D7 2DE-2DF 2E5-2EB 2ED 2EF-2FF 55A-55C 55E 58A 5F3 70F A708-A716",
      "A720-A721 A789-A78A AB5B"]))
    (.anyOf [ideographic, katakana, unspaced, scriptOf "hiragana", wordExtending, hebrewLetter])

def wordBreaks : List (List String × CharClass) :=
  [(["le", "aletter"], wordLetter),
    (["cr"], carriageReturn),
    (["dq", "doublequote"], only 0x22),
    (["extend"], wordExtending),
    (["ex", "extendnumlet"], .union connectorPunctuation (only 0x202F)),
    (["fo", "format"],
      .minus format (.anyOf [.rows ["70F 200B-200D"], numberSigns, wordExtending])),
    (["hl", "hebrewletter"], hebrewLetter),
    (["ka", "katakana"], katakana),
    (["lf"], lineFeed),
    (["ml", "midletter"], .rows ["3A B7 387 55F 5F4 2027 FE13 FE55 FF1A"]),
    (["mn", "midnum"],
      .rows ["2C 3B 37E 589 60C-60D 66C 7F8 2044 FE10 FE14 FE50 FE54 FF0C FF1B"]),
    (["mb", "midnumlet"], .rows ["2E 2018-2019 2024 FE52 FF07 FF0E"]),
    (["nl", "newline"], .rows ["B-C 85 2028-2029"]),
    (["nu", "numeric"], digits),
    (["ri", "regionalindicator"], regionalIndicator),
    (["sq", "singlequote"], only 0x27),
    (["wsegspace"], .minus spaceSeparator (.rows ["A0 2007 202F"])),
    (["zwj"], zeroWidthJoiner)]

def sentenceExtending : CharClass := .anyOf [graphemeExtend, zeroWidthJoiner, spacingMark]

def paragraphEnds : CharClass := .rows ["85 2028-2029"]

def sentenceLower : CharClass :=
  .minus lowercase (.union graphemeExtend (.rows ["10D0-10FA 10FD-10FF"]))

def sentenceUpper : CharClass :=
  .minus (.union titlecaseLetter uppercase) (.rows ["1C90-1CBA 1CBD-1CBF"])

def sentenceDigits : CharClass := .union digits (only 0x66C)

def fullStops : CharClass := .rows ["2E 2024 FE52 FF0E"]

def sentenceEnds : CharClass := .minus sentenceTerminal fullStops

def quotationSigns : CharClass :=
  .rows
    ["22 27 AB BB 2018-2019 201B-201D 201F 2039-203A 275B-2760 2E00-2E0D 2E1C-2E1D 2E20-2E21",
     "1F676-1F678"]

def sentenceBreaks : List (List String × CharClass) :=
  [(["at", "aterm"], fullStops),
    (["cl", "close"],
      .minus (.anyOf [openPunctuation, closePunctuation, quotationSigns])
        (.anyOf [fullStops, sentenceEnds, only 0x5F3])),
    (["cr"], carriageReturn),
    (["ex", "extend"], sentenceExtending),
    (["fo", "format"],
      .minus format (.anyOf [.rows ["200C-200D"], numberSigns, sentenceExtending])),
    (["lf"], lineFeed),
    (["lo", "lower"], sentenceLower),
    (["nu", "numeric"], sentenceDigits),
    (["le", "oletter"],
      .minus (.union alphabetic (only 0x5F3))
        (.anyOf [sentenceLower, sentenceUpper, sentenceExtending, sentenceDigits])),
    (["sc", "scontinue"], .rows
      ["2C-2D 3A-3B 37E 55D 60C-60D 7F8 1802 1808 2013-2014 3001 FE10-FE11 FE13-FE14 FE31-FE32",
       "FE50-FE51 FE54-FE55 FE58 FE63 FF0C-FF0D FF1A-FF1B FF64"]),
    (["st", "sterm"], sentenceEnds),
    (["se", "sep"], paragraphEnds),
    (["sp"], .minus whiteSpace (.anyOf [paragraphEnds, carriageReturn, lineFeed])),
    (["up", "upper"], sentenceUpper)]

end ListingGrid.Unicode
