import TextRules.Text.Printable

namespace TextRules

/-!
# Quoted text

Text in double quotes, as log records show it: what would not show by itself is written as an
escape, so that the quoted form of a text is always one visible line.
-/

/-- The code point of a character as an escape with lower-case hexadecimal digits. -/
def escapeCodePoint (c : Char) : List Char :=
  ['\\', 'u', '\x7b'] ++ Nat.toDigits 16 c.toNat ++ ['\x7d']

/-- A character inside quotes. -/
def escapeChar (c : Char) : List Char :=
  if c = '\x00' then ['\\', '0']
  else if c = '\t' then ['\\', 't']
  else if c = '\r' then ['\\', 'r']
  else if c = '\n' then ['\\', 'n']
  else if c = '\\' ∨ c = '"' then ['\\', c]
  else if isPrintable c then [c]
  else escapeCodePoint c

/-- A text in double quotes. -/
def quoted (text : String) : String :=
  String.ofList (['"'] ++ text.toList.flatMap escapeChar ++ ['"'])

example : quoted "it's \"so\"" = "\"it's \\\"so\\\"\"" := by decide +kernel

example : quoted "a\u200b\n" = "\"a\\u\x7b200b\x7d\\n\"" := by decide +kernel

end TextRules
