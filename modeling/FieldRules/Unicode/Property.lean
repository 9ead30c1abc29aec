import FieldRules.CharSet.Ascii
import FieldRules.Unicode.Category
import FieldRules.Unicode.Emoji
import FieldRules.Unicode.Traits
import FieldRules.Unicode.Uppercase

/-!
Properties that characters have or have not, and their names.
-/

namespace FieldRules.Unicode

def whiteSpace : CharSet :=
  ⟨[(9, 0xD), (0x20, 0x20), (0x85, 0x85), (0xA0, 0xA0), (0x1680, 0x1680), (0x2000, 0x200A),
    (0x2028, 0x2029), (0x202F, 0x202F), (0x205F, 0x205F), (0x3000, 0x3000)]⟩

/-- The two characters that make or prevent the joining of their neighbours. -/
def joinControl : CharSet := ⟨[(0x200C, 0x200D)]⟩

def alphabetic : CharSet := .unions [letters, letterNumbers, otherAlphabetic]

/-- The characters of words: letters, marks, digits, connecting punctuation and joiners. -/
def wordChars : CharSet :=
  .unions [alphabetic, marks, decimalDigits, connectorPunctuation, joinControl]

def lowercase : CharSet := lowercaseLetters.union otherLowercase

def uppercase : CharSet := uppercaseLetters.union otherUppercase

def cased : CharSet := .unions [lowercase, uppercase, titlecaseLetters]

/-- The marks that stand between the letters of a word and end it elsewhere. -/
def innerMarks : CharSet :=
  .ofText "27 2E 3A B7 387 55F 5F4 2018-2019 2024 2027 FE13 FE52 FE55 FF07 FF0E FF1A"

/-- The characters that the search for neighbouring letters passes over. -/
def caseIgnorable : CharSet :=
  .unions [nonspacingMarks, enclosingMarks, formats, modifierLetters, modifierSymbols, innerMarks]

/-- The set of some code points. -/
def ofCodes (codes : List Nat) : CharSet := .ofRanges (codes.map fun n => (n, n))

/-- The characters that have another uppercase form. -/
def changesWhenUppercased : CharSet :=
  ofCodes (upperRuns.flatMap CaseRun.codes ++ upperExpansions.map (·.1))

/-- The characters that have another titlecase form. The small letters of Georgian have none. -/
def changesWhenTitlecased : CharSet :=
  (changesWhenUppercased.union (.ofText "1C4 1C7 1CA 1F1")).diff
    (titlecaseLetters.union (.ofText "10D0-10FA 10FD-10FF"))

/-- The characters that have another lowercase form: what the uppercase mapping leads to, the
    titlecase letters, and capitals to which no letter leads. -/
def changesWhenLowercased : CharSet :=
  .unions [ofCodes (upperRuns.flatMap fun run => run.codes.map run.image), titlecaseLetters,
    .ofText "130 3F4 1E9E 2126 212A-212B"]

/-- The small letters that have another form when case is folded. -/
def foldedSmallLetters : CharSet :=
  .ofText
    "B5 DF 149 17F 345 3C2 3D0-3D1 3D5-3D6 3F0-3F1 3F5 587 13F8-13FD 1C80-1C88 1E9A-1E9B
    1F80-1F87 1F90-1F97 1FA0-1FA7 1FB2-1FB4 1FB7 1FC2-1FC4 1FC7 1FF2-1FF4 1FF7 AB70-ABBF
    FB00-FB06 FB13-FB17"

/-- The characters that have another form when case is folded: in general the capitals, but of the
    Cherokee letters the small ones. -/
def changesWhenCasefolded : CharSet :=
  (changesWhenLowercased.diff (.ofText "13A0-13F5")).union foldedSmallLetters

def changesWhenCasemapped : CharSet :=
  .unions [changesWhenLowercased, changesWhenUppercased, changesWhenTitlecased]

def math : CharSet := mathSymbols.union otherMath

def patternWhiteSpace : CharSet := .ofText "9-D 20 85 200E-200F 2028-2029"

/-- The characters of the notation of patterns, which no name begins with or goes on with. -/
def patternChars : CharSet := patternSyntax.union patternWhiteSpace

def otherIdStart : CharSet := .ofText "1885-1886 2118 212E 309B-309C"

/-- The characters that a name may begin with. -/
def idStart : CharSet := (CharSet.unions [letters, letterNumbers, otherIdStart]).diff patternChars

def otherIdContinue : CharSet := .ofText "B7 387 1369-1371 19DA 200C-200D 30FB FF65"

/-- The characters that a name may go on with. -/
def idContinue : CharSet :=
  (CharSet.unions [idStart, nonspacingMarks, spacingMarks, decimalDigits, connectorPunctuation,
    otherIdContinue]).diff patternChars

/-- Characters whose compatible forms begin with one that no name may go on with. -/
def looseForms : CharSet :=
  .ofText "37A 309B-309C FC5E-FC63 FDFA-FDFB FE70 FE72 FE74 FE76 FE78 FE7A FE7C FE7E"

/-- The characters that a name may begin with, whichever compatible form they have. -/
def xidStart : CharSet :=
  idStart.diff (looseForms.union (.ofText "E33 EB3 FF9E-FF9F"))

/-- The characters that a name may go on with, whichever compatible form they have. -/
def xidContinue : CharSet := idContinue.diff looseForms

/-- The signs of numbers and years that stand before several digits. -/
def prependedConcatenationMark : CharSet :=
  .ofText "600-605 6DD 70F 890-891 8E2 110BD 110CD"

def otherDefaultIgnorable : CharSet :=
  .ofText
    "34F 115F-1160 17B4-17B5 2065 3164 FFA0 FFF0-FFF8 E0000 E0002-E001F E0080-E00FF
    E01F0-E0FFF"

/-- The characters of which nothing is shown if they are not known. -/
def defaultIgnorable : CharSet :=
  (CharSet.unions [otherDefaultIgnorable, formats, variationSelector]).diff
    (prependedConcatenationMark.union (.ofText "FFF9-FFFB 13430-1343F"))

/-- The characters that continue a written character. -/
def graphemeExtend : CharSet :=
  .unions [nonspacingMarks, enclosingMarks, otherGraphemeExtend]

/-- The characters that begin a written character. -/
def graphemeBase : CharSet :=
  (CharSet.unions [letters, marks, numbers, punctuation, symbols, spaceSeparators]).diff
    graphemeExtend

/-- Half the pairs of letters that make up flags. -/
def regionalIndicator : CharSet := .ofText "1F1E6-1F1FF"

def emojiModifier : CharSet := .ofText "1F3FB-1F3FF"

/-- The signs with which names in mathematics may begin. -/
def compatMathStart : CharSet :=
  .ofText
    "2202 2207 221E 1D6C1 1D6DB 1D6FB 1D715 1D735 1D74F 1D76F 1D789 1D7A9 1D7C3"

/-- The signs with which names in mathematics may go on. -/
def compatMathContinue : CharSet :=
  compatMathStart.union (.ofText "B2-B3 B9 2070 2074-207E 2080-208E")

def noncharacter : CharSet :=
  .unions [.ofText "FDD0-FDEF",
    .ofRanges ((List.range 17).map fun plane =>
      (0x10000 * plane + 0xFFFE, 0x10000 * plane + 0xFFFF))]

/-- The set of a property that characters have or have not, by a short or long name. -/
def ofPropertyName? : String → Option CharSet
  | "asciihexdigit" | "ahex" => some .asciiHexDigits
  | "alphabetic" | "alpha" => some alphabetic
  | "bidicontrol" | "bidic" => some (.ofText "61C 200E-200F 202A-202E 2066-2069")
  | "bidimirrored" | "bidim" => some bidiMirrored
  | "caseignorable" | "ci" => some caseIgnorable
  | "cased" => some cased
  | "changeswhencasefolded" | "cwcf" => some changesWhenCasefolded
  | "changeswhencasemapped" | "cwcm" => some changesWhenCasemapped
  | "changeswhenlowercased" | "cwl" => some changesWhenLowercased
  | "changeswhentitlecased" | "cwt" => some changesWhenTitlecased
  | "changeswhenuppercased" | "cwu" => some changesWhenUppercased
  | "dash" => some dash
  | "defaultignorablecodepoint" | "di" => some defaultIgnorable
  | "deprecated" | "dep" => some deprecated
  | "diacritic" | "dia" => some diacritic
  | "emoji" => some emoji
  | "emojicomponent" | "ecomp" => some emojiComponent
  | "emojimodifier" | "emod" => some emojiModifier
  | "emojimodifierbase" | "ebase" => some emojiModifierBase
  | "emojipresentation" | "epres" => some emojiPresentation
  | "extendedpictographic" | "extpict" => some extendedPictographic
  | "extender" | "ext" => some extender
  | "graphemebase" | "grbase" => some graphemeBase
  | "graphemeextend" | "grext" => some graphemeExtend
  | "graphemelink" | "grlink" => some graphemeLink
  | "hexdigit" | "hex" =>
    some (CharSet.asciiHexDigits.union (.ofText "FF10-FF19 FF21-FF26 FF41-FF46"))
  | "hyphen" => some hyphen
  | "idsbinaryoperator" | "idsb" => some (.ofText "2FF0-2FF1 2FF4-2FFD 31EF")
  | "idstrinaryoperator" | "idst" => some (.ofText "2FF2-2FF3")
  | "idsunaryoperator" | "idsu" => some (.ofText "2FFE-2FFF")
  | "idcompatmathcontinue" => some compatMathContinue
  | "idcompatmathstart" => some compatMathStart
  | "idcontinue" | "idc" => some idContinue
  | "idstart" | "ids" => some idStart
  | "ideographic" | "ideo" => some ideographic
  | "joincontrol" | "joinc" => some joinControl
  | "logicalorderexception" | "loe" => some logicalOrderException
  | "lowercase" | "lower" => some lowercase
  | "math" => some math
  | "modifiercombiningmark" | "mcm" =>
    some (.ofText "654-655 658 6DC 6E3 6E7-6E8 8CA-8CB 8CD-8CF 8D3 8F3")
  | "noncharactercodepoint" | "nchar" => some noncharacter
  | "otheralphabetic" | "oalpha" => some otherAlphabetic
  | "otherdefaultignorablecodepoint" | "odi" => some otherDefaultIgnorable
  | "othergraphemeextend" | "ogrext" => some otherGraphemeExtend
  | "otheridcontinue" | "oidc" => some otherIdContinue
  | "otheridstart" | "oids" => some otherIdStart
  | "otherlowercase" | "olower" => some otherLowercase
  | "othermath" | "omath" => some otherMath
  | "otheruppercase" | "oupper" => some otherUppercase
  | "patternsyntax" | "patsyn" => some patternSyntax
  | "patternwhitespace" | "patws" => some patternWhiteSpace
  | "prependedconcatenationmark" | "pcm" => some prependedConcatenationMark
  | "quotationmark" | "qmark" => some quotationMark
  | "radical" => some radical
  | "regionalindicator" | "ri" => some regionalIndicator
  | "sentenceterminal" | "sterm" => some sentenceTerminal
  | "softdotted" | "sd" => some softDotted
  | "terminalpunctuation" | "term" => some terminalPunctuation
  | "unifiedideograph" | "uideo" => some unifiedIdeograph
  | "uppercase" | "upper" => some uppercase
  | "variationselector" | "vs" => some variationSelector
  | "whitespace" | "wspace" | "space" => some whiteSpace
  | "xidcontinue" | "xidc" => some xidContinue
  | "xidstart" | "xids" => some xidStart
  | _ => none

end FieldRules.Unicode
