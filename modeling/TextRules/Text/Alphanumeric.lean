import TextRules.Text.Property.Binary

namespace TextRules

/-!
# Letters and numbers

The alphabetic and the numeric characters of version 17.0 of the Unicode standard: those of version
16.0, and what has been added since.
-/

/-- The alphabetic characters. -/
def alphabeticChars : CharSet :=
  .union BinaryProperty.alphabetic (.ofText
    "88F C5C CDC A7CE-A7CF A7D2 A7D4 A7F1 10940-10959 10EC5-10EC7 10EFA-10EFB 11B60-11B67
     11DB0-11DDB 16EA0-16EB8 16EBB-16ED3 16FF2-16FF6 187F8-187FF 18D09-18D1E 18D80-18DF2
     1E6C0-1E6DE 1E6E0-1E6F5 1E6FE-1E6FF 2B73A-2B73F 2CEA2-2CEAD 323B0-33479")

/-- Whether a character is alphabetic. -/
def isAlphabetic (c : Char) : Bool := alphabeticChars.contains c

/-- The characters that are numbers. -/
def numericChars : CharSet :=
  .union GeneralCategory.number (.ofText "11DE0-11DE9 16FF4-16FF6")

/-- Whether a character is a number. -/
def isNumeric (c : Char) : Bool := numericChars.contains c

end TextRules
