import TextRules.Text.CharSet

namespace TextRules

/-!
# Blank characters

The characters with the Unicode property White_Space.  Rule text may be spaced with any of them.
-/

/-- The blank characters: the ASCII spaces and line ends, and the wider Unicode spaces. -/
def blanks : CharSet :=
  ⟨[(0x9, 0xD), (0x20, 0x20), (0x85, 0x85), (0xA0, 0xA0), (0x1680, 0x1680), (0x2000, 0x200A),
    (0x2028, 0x2029), (0x202F, 0x202F), (0x205F, 0x205F), (0x3000, 0x3000)]⟩

/-- Whether a character is blank. -/
def isBlank (c : Char) : Bool := blanks.contains c

example : isBlank '\u00a0' = true := by decide

example : isBlank '\u200b' = false := by decide

end TextRules
