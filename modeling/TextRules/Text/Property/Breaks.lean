import TextRules.Text.Property.Binary

namespace TextRules

/-!
# Breaks

What part the characters play in finding the boundaries of graphemes, words and sentences, in
version 16.0 of the Unicode standard.
-/

namespace GraphemeBreak

open GeneralCategory BinaryProperty

/-- Characters that extend the one before. -/
def extend : CharSet := .union graphemeExtend emojiModifier

/-- Characters that precede the one that they belong to. -/
def prepend : CharSet := .ofText
  "600-605 6DD 70F 890-891 8E2 D4E 110BD 110CD 111C2-111C3 113D1 1193F 11941 11A3A 11A84-11A89
   11D46 11F02"

/-- Characters that stand alone. -/
def control : CharSet :=
  .diff
    (.unions [lineSeparator, paragraphSeparator, GeneralCategory.control, format,
      .inter unassigned defaultIgnorable])
    (.unions [.ofText "A D 200C-200D", prependedConcatenationMark, extend])

/-- Marks that follow the character that they belong to. -/
def spacingMark : CharSet :=
  .diff (.union GeneralCategory.spacingMark (.ofText "E33 EB3")) (.union extend (.ofText
    "102B-102C 1038 1062-1064 1067-106D 1083 1087-108C 108F 109A-109C 1A61 1A63-1A64 AA7B AA7D
     11720-11721"))

/-- Leading consonants of Hangul. -/
def leading : CharSet := .ofText
  "1100-115F A960-A97C"

/-- Vowels of Hangul. -/
def vowel : CharSet := .ofText
  "1160-11A7 D7B0-D7C6 16D63 16D67-16D6A"

/-- Trailing consonants of Hangul. -/
def trailing : CharSet := .ofText
  "11A8-11FF D7CB-D7FB"

/-- Syllables of Hangul without a trailing consonant, which come with those that have one. -/
def openSyllable : CharSet :=
  ⟨(List.range 399).map fun i => (0xAC00 + 28 * i, 0xAC00 + 28 * i)⟩

/-- Syllables of Hangul with a trailing consonant. -/
def closedSyllable : CharSet := .diff (.ofText "AC00-D7A3") openSyllable

/-- The parts that characters play in graphemes. -/
def all : List NamedSet :=
  [⟨["CN", "Control"], control⟩, ⟨["CR"], .ofText "D"⟩, ⟨["EX", "Extend"], extend⟩,
    ⟨["L"], leading⟩, ⟨["LF"], .ofText "A"⟩, ⟨["LV"], openSyllable⟩, ⟨["LVT"], closedSyllable⟩,
    ⟨["PP", "Prepend"], prepend⟩, ⟨["RI", "Regional_Indicator"], regionalIndicator⟩,
    ⟨["SM", "SpacingMark"], spacingMark⟩, ⟨["T"], trailing⟩, ⟨["V"], vowel⟩,
    ⟨["ZWJ"], .ofText "200D"⟩]

end GraphemeBreak

namespace WordBreak

open GeneralCategory BinaryProperty

/-- Katakana. -/
def katakana : CharSet := .ofText
  "3031-3035 309B-309C 30A0-30FA 30FC-30FF 31F0-31FF 32D0-32FE 3300-3357 FF66-FF9D 1AFF0-1AFF3
   1AFF5-1AFFB 1AFFD-1AFFE 1B000 1B120-1B122 1B155 1B164-1B167"

/-- Letters of Hebrew. -/
def hebrewLetter : CharSet := .ofText
  "5D0-5EA 5EF-5F2 FB1D FB1F-FB28 FB2A-FB36 FB38-FB3C FB3E FB40-FB41 FB43-FB44 FB46-FB4F"

/-- Characters that only affect the layout. -/
def format : CharSet := .ofText
  "AD 61C 180E 200E-200F 202A-202E 2060-2064 2066-206F FEFF FFF9-FFFB 13430-1343F 1BCA0-1BCA3
   1D173-1D17A E0001"

/-- Letters of words that are not alphabetic. -/
def furtherLetter : CharSet := .ofText
  "2C2-2C5 2D2-2D7 2DE-2DF 2E5-2EB 2ED 2EF-2FF 55A-55C 55E 58A 5F3 70F A708-A716 A720-A721
   A789-A78A AB5B"

/-- Letters of scripts that leave no spaces between words. -/
def unspaced : CharSet := .ofText
  "E01-E30 E32-E33 E40-E46 E81-E82 E84 E86-E8A E8C-EA3 EA5 EA7-EB0 EB2-EB3 EBD EC0-EC4 EC6 EDC-EDF
   1000-102A 103F 1050-1055 105A-105D 1061 1065-1066 106E-1070 1075-1081 108E 1780-17B3 17D7 17DC
   1950-196D 1970-1974 1980-19AB 19B0-19C9 1A20-1A54 1AA7 3041-3096 309D-309F A9E0-A9E4 A9E6-A9EF
   A9FA-A9FE AA60-AA76 AA7A AA7E-AAAF AAB1 AAB5-AAB6 AAB9-AABD AAC0 AAC2 AADB-AADD 11700-1171A
   11740-11746 1B001-1B11F 1B132 1B150-1B152"

/-- Characters that extend the one before. -/
def extend : CharSet :=
  .diff (.unions [graphemeExtend, spacingMark, emojiModifier]) (.ofText "200D")

/-- Digits, and signs that go with them. -/
def numeric : CharSet :=
  .union decimalNumber (.ofText "600-605 66B 6DD 890-891 8E2 19DA 110BD 110CD")

/-- Letters of words. -/
def letter : CharSet :=
  .union furtherLetter
    (.diff alphabetic (.unions [ideographic, katakana, extend, hebrewLetter, unspaced]))

/-- The parts that characters play in words. -/
def all : List NamedSet :=
  [⟨["CR"], .ofText "D"⟩, ⟨["DQ", "Double_Quote"], .ofText "22"⟩,
    ⟨["EX", "ExtendNumLet"], .ofText "5F 202F 203F-2040 2054 FE33-FE34 FE4D-FE4F FF3F"⟩,
    ⟨["Extend"], extend⟩, ⟨["FO", "Format"], format⟩, ⟨["HL", "Hebrew_Letter"], hebrewLetter⟩,
    ⟨["KA", "Katakana"], katakana⟩, ⟨["LE", "ALetter"], letter⟩, ⟨["LF"], .ofText "A"⟩,
    ⟨["MB", "MidNumLet"], .ofText "2E 2018-2019 2024 FE52 FF07 FF0E"⟩,
    ⟨["ML", "MidLetter"], .ofText "3A B7 387 55F 5F4 2027 FE13 FE55 FF1A"⟩,
    ⟨["MN", "MidNum"], .ofText "2C 3B 37E 589 60C-60D 66C 7F8 2044 FE50 FE54 FF0C FF1B"⟩,
    ⟨["NL", "Newline"], .ofText "B-C 85 2028-2029"⟩, ⟨["NU", "Numeric"], numeric⟩,
    ⟨["RI", "Regional_Indicator"], regionalIndicator⟩, ⟨["SQ", "Single_Quote"], .ofText "27"⟩,
    ⟨["WSegSpace"], .ofText "20 1680 2000-2006 2008-200A 205F 3000"⟩, ⟨["ZWJ"], .ofText "200D"⟩]

end WordBreak

namespace SentenceBreak

open GeneralCategory BinaryProperty

/-- Punctuation within a sentence. -/
def continuing : CharSet := .ofText
  "2C-2D 3A-3B 37E 55D 60C-60D 7F8 1802 1808 2013-2014 3001 FE10-FE11 FE13-FE14 FE31-FE32
   FE50-FE51 FE54-FE55 FE58 FE63 FF0C-FF0D FF1A-FF1B FF64"

/-- Characters that extend the one before. -/
def extend : CharSet := .unions [graphemeExtend, spacingMark, .ofText "200D"]

/-- Characters that only affect the layout. -/
def format : CharSet := .union WordBreak.format (.ofText "70F 200B")

/-- Lower-case letters. -/
def lower : CharSet := .diff lowercase (.union graphemeExtend (.ofText "10D0-10FA 10FD-10FF"))

/-- Upper-case letters. -/
def upper : CharSet :=
  .diff (.union uppercase titlecaseLetter) (.ofText "1C90-1CBA 1CBD-1CBF")

/-- Other letters. -/
def letter : CharSet :=
  .union (.diff alphabetic (.unions [lower, upper, extend])) (.ofText "5F3")

/-- Digits, and signs that go with them. -/
def numeric : CharSet :=
  .union decimalNumber (.ofText "600-605 66B-66C 6DD 890-891 8E2 19DA 110BD 110CD")

/-- Full stops, which may also stand within a sentence. -/
def fullStop : CharSet := .ofText "2E 2024 FE52 FF0E"

/-- Punctuation that ends a sentence. -/
def terminal : CharSet := .diff sentenceTerminal fullStop

/-- Brackets and quotation marks around sentences. -/
def close : CharSet :=
  .unions [openPunctuation, closePunctuation, initialPunctuation, finalPunctuation,
    .ofText "22 27 275B-2760 2E00-2E01 2E06-2E08 2E0B 1F676-1F678"]

/-- Separators of paragraphs. -/
def separator : CharSet := .ofText "85 2028-2029"

/-- Spaces. -/
def space : CharSet := .diff whiteSpace (.union separator (.ofText "A D"))

/-- The parts that characters play in sentences. -/
def all : List NamedSet :=
  [⟨["AT", "ATerm"], fullStop⟩, ⟨["CL", "Close"], close⟩, ⟨["CR"], .ofText "D"⟩,
    ⟨["EX", "Extend"], extend⟩, ⟨["FO", "Format"], format⟩, ⟨["LE", "OLetter"], letter⟩,
    ⟨["LF"], .ofText "A"⟩, ⟨["LO", "Lower"], lower⟩, ⟨["NU", "Numeric"], numeric⟩,
    ⟨["SC", "SContinue"], continuing⟩, ⟨["SE", "Sep"], separator⟩, ⟨["SP", "Sp"], space⟩,
    ⟨["ST", "STerm"], terminal⟩, ⟨["UP", "Upper"], upper⟩]

end SentenceBreak

end TextRules
