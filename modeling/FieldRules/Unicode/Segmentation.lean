import FieldRules.Unicode.Property
import FieldRules.Unicode.Script

/-!
The classes of characters by which texts are divided into written characters, words and sentences.
-/

namespace FieldRules.Unicode

/-- The first syllable block of Hangul, with which the precomposed syllables begin. -/
def firstSyllable : Nat := 0xAC00

/-- How many precomposed syllables share their first consonant and vowel. -/
def syllableRow : Nat := 28

/-- The precomposed syllables without a final consonant. -/
def openSyllables : CharSet :=
  ofCodes ((List.range 399).map fun row => firstSyllable + syllableRow * row)

/-- The precomposed syllables with a final consonant. -/
def closedSyllables : CharSet :=
  .ofRanges <| (List.range 399).map fun row =>
    (firstSyllable + syllableRow * row + 1, firstSyllable + syllableRow * row + syllableRow - 1)

def carriageReturn : CharSet := .single '\r'

def lineFeed : CharSet := .single '\n'

def zeroWidthJoiner : CharSet := .ofText "200D"

namespace Grapheme

/-- The characters that belong to the written character before them. -/
def extend : CharSet := graphemeExtend.union emojiModifier

/-- The characters that belong to the written character after them. -/
def prepend : CharSet :=
  prependedConcatenationMark.union
    (.ofText "D4E 111C2-111C3 113D1 1193F 11941 11A3A 11A84-11A89 11D46 11F02")

/-- The spacing marks that do not continue a written character where they are of South-East Asian
    scripts that write them apart. -/
def spacingMark : CharSet :=
  (spacingMarks.union (.ofText "E33 EB3")).diff
    (extend.union (.ofText
      "102B-102C 1038 1062-1064 1067-106D 1083 1087-108C 108F 109A-109C 1A61 1A63-1A64 AA7B
      AA7D 11720-11721"))

def control : CharSet :=
  (CharSet.unions [lineSeparators, paragraphSeparators, controls, formats,
      defaultIgnorable.diff assigned]).diff
    (.unions [carriageReturn, lineFeed, joinControl, prepend, extend])

/-- A class of written characters, by a short or long name. -/
def ofName? : String → Option CharSet
  | "control" | "cn" => some control
  | "cr" => some carriageReturn
  | "extend" | "ex" => some extend
  | "l" => some (.ofText "1100-115F A960-A97C")
  | "lf" => some lineFeed
  | "lv" => some openSyllables
  | "lvt" => some closedSyllables
  | "prepend" | "pp" => some prepend
  | "regionalindicator" | "ri" => some regionalIndicator
  | "spacingmark" | "sm" => some spacingMark
  | "t" => some (.ofText "11A8-11FF D7CB-D7FB")
  | "v" => some (.ofText "1160-11A7 D7B0-D7C6 16D63 16D67-16D6A")
  | "zwj" => some zeroWidthJoiner
  | _ => none

end Grapheme

/-- The signs that begin numbers, and the Arabic decimal point. -/
def numericSigns : CharSet := .ofText "600-605 66B 6DD 890-891 8E2 19DA 110BD 110CD"

/-- The characters of which numbers consist. -/
def numeric : CharSet := decimalDigits.union numericSigns

namespace Word

def katakana : CharSet :=
  .ofText
    "3031-3035 309B-309C 30A0-30FA 30FC-30FF 31F0-31FF 32D0-32FE 3300-3357 FF66-FF9D 1AFF0-1AFF3
    1AFF5-1AFFB 1AFFD-1AFFE 1B000 1B120-1B122 1B155 1B164-1B167"

def extend : CharSet :=
  (CharSet.unions [graphemeExtend, spacingMarks, emojiModifier]).diff zeroWidthJoiner

def hebrewLetter : CharSet := otherLetters.inter (.ofText "591-5F4 FB1D-FB4F")

/-- The letters of scripts in which words follow each other without a space. -/
def unspacedLetters : CharSet :=
  .ofText
    "E01-E3A E40-E4E E81-E82 E84 E86-E8A E8C-EA3 EA5 EA7-EBD EC0-EC4 EC6 EC8-ECE EDC-EDF
    1000-103F 1050-108F 109A-109F 1780-17D3 17D7 17DC-17DD 1950-196D 1970-1974 1980-19AB
    19B0-19C9 19DE-19DF 1A20-1A5E 1A60-1A7C 1AA0-1AAD A9E0-A9EF A9FA-A9FE AA60-AAC2 AADB-AADF
    11700-1171A 1171D-1172B 1173A-1173B 1173F-11746"

/-- Signs that count as letters. -/
def letterSigns : CharSet :=
  .ofText
    "2C2-2C5 2D2-2D7 2DE-2DF 2E5-2EB 2ED 2EF-2FF 55A-55C 55E 58A 5F3 70F A708-A716 A720-A721
    A789-A78A AB5B"

/-- The letters of scripts that separate words by spaces. -/
def letter : CharSet :=
  let hiragana := ((Script.ofName? "hiragana").map (·.own)).getD .none
  (alphabetic.union letterSigns).diff
    (.unions [ideographic, katakana, unspacedLetters, hiragana, extend, hebrewLetter])

/-- A class of characters in words, by a short or long name. -/
def ofName? : String → Option CharSet
  | "aletter" | "le" => some letter
  | "cr" => some carriageReturn
  | "doublequote" | "dq" => some (.single '"')
  | "extend" => some extend
  | "extendnumlet" | "ex" => some (connectorPunctuation.union (.ofText "202F"))
  | "format" | "fo" =>
    some (formats.diff (.unions [joinControl, .ofText "70F 200B", numeric, extend]))
  | "hebrewletter" | "hl" => some hebrewLetter
  | "katakana" | "ka" => some katakana
  | "lf" => some lineFeed
  | "midletter" | "ml" => some (.ofText "3A B7 387 55F 5F4 2027 FE13 FE55 FF1A")
  | "midnum" | "mn" =>
    some (.ofText "2C 3B 37E 589 60C-60D 66C 7F8 2044 FE10 FE14 FE50 FE54 FF0C FF1B")
  | "midnumlet" | "mb" => some (.ofText "2E 2018-2019 2024 FE52 FF07 FF0E")
  | "newline" | "nl" => some (.ofText "B-C 85 2028-2029")
  | "numeric" | "nu" => some numeric
  | "regionalindicator" | "ri" => some regionalIndicator
  | "singlequote" | "sq" => some (.single '\'')
  | "wsegspace" => some (.ofText "20 1680 2000-2006 2008-200A 205F 3000")
  | "zwj" => some zeroWidthJoiner
  | _ => none

end Word

namespace Sentence

/-- The points, which may end a sentence or not. -/
def point : CharSet := .ofText "2E 2024 FE52 FF0E"

def extend : CharSet := .unions [graphemeExtend, spacingMarks, zeroWidthJoiner]

/-- Of the letters of Georgian, neither the small ones nor the capitals begin sentences. -/
def lower : CharSet := (lowercase.diff graphemeExtend).diff (.ofText "10D0-10FA 10FD-10FF")

def upper : CharSet := (titlecaseLetters.union uppercase).diff (.ofText "1C90-1CBA 1CBD-1CBF")

/-- The letters without case. -/
def letter : CharSet :=
  (alphabetic.union (.ofText "5F3")).diff (.unions [lower, upper, extend])

/-- A class of characters in sentences, by a short or long name. -/
def ofName? : String → Option CharSet
  | "aterm" | "at" => some point
  | "close" | "cl" =>
    some (.unions [openPunctuation, closePunctuation, initialPunctuation, finalPunctuation,
      .ofText "22 27 275B-2760 2E00-2E01 2E06-2E08 2E0B 1F676-1F678"])
  | "cr" => some carriageReturn
  | "extend" | "ex" => some extend
  | "format" | "fo" => some (formats.diff (.unions [joinControl, numeric, extend]))
  | "lf" => some lineFeed
  | "lower" | "lo" => some lower
  | "numeric" | "nu" => some (numeric.union (.ofText "66C"))
  | "oletter" | "le" => some letter
  | "scontinue" | "sc" =>
    some (.ofText
      "2C-2D 3A-3B 37E 55D 60C-60D 7F8 1802 1808 2013-2014 3001 FE10-FE11 FE13-FE14 FE31-FE32
      FE50-FE51 FE54-FE55 FE58 FE63 FF0C-FF0D FF1A-FF1B FF64")
  | "sep" | "se" => some (.ofText "85 2028-2029")
  | "sp" => some (whiteSpace.diff (.unions [carriageReturn, lineFeed, .ofText "85 2028-2029"]))
  | "sterm" | "st" => some (sentenceTerminal.diff point)
  | "upper" | "up" => some upper
  | _ => none

end Sentence

end FieldRules.Unicode
