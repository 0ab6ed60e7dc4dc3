import TextRules.Text.Decimal
import TextRules.Text.Split

namespace TextRules

/-!
# Faults in patterns

What keeps a text from being a pattern, and how it is reported: the text, marks under the places
that show the fault, and its wording.
-/

/-! ### Places -/

/-- A place in a text, by line and column, which are counted from one. -/
structure Position where
  line : Nat
  column : Nat
  deriving DecidableEq

namespace Position

/-- The beginning of a text. -/
def start : Position := ⟨1, 1⟩

/-- The place behind a character. -/
def after (p : Position) (c : Char) : Position :=
  if c = '\n' then ⟨p.line + 1, 1⟩ else ⟨p.line, p.column + 1⟩

end Position

/-- A stretch of a text, from one place up to another. -/
structure Stretch where
  start : Position
  stop : Position
  deriving DecidableEq

/-- The stretch of a single character. -/
def Stretch.ofChar (p : Position) (c : Char) : Stretch := ⟨p, p.after c⟩

/-- Nothing, at some place. -/
def Stretch.none (p : Position) : Stretch := ⟨p, p⟩

/-- Whether a stretch starts and stops on the same line. -/
def Stretch.isInLine (s : Stretch) : Bool := s.start.line == s.stop.line

/-! ### Faults -/

namespace Pattern

/-- What can be wrong with a pattern. -/
inductive Fault
  | badClassMember
  | badClassRange
  | badRangeEnd
  | unclosedClass
  | noHexDigits
  | notACharacter
  | badHexDigit
  | unfinishedEscape
  | unknownEscape
  | danglingNegation
  | repeatedFlag
  | repeatedNegation
  | unfinishedFlags
  | unknownFlag
  | repeatedName
  | emptyName
  | badNameChar
  | unclosedName
  | unclosedGroup
  | unopenedGroup
  | badCount
  | noCount
  | countsOutOfOrder
  | unclosedCount
  | nothingToRepeat
  | unclosedBoundary
  | unknownBoundary
  | unfinishedBoundary
  | badProperty
  | backreference
  | lookAround
  | tooDeep (limit : Nat)
  | invalidUtf8
  | noUnicode
  | unknownProperty
  | unknownPropertyValue
  deriving DecidableEq

/-- The wording of a fault. -/
def Fault.message : Fault → String
  | .badClassMember => "invalid escape sequence found in character class"
  | .badClassRange => "invalid character class range, the start must be <= the end"
  | .badRangeEnd => "invalid range boundary, must be a literal"
  | .unclosedClass => "unclosed character class"
  | .noHexDigits => "hexadecimal literal empty"
  | .notACharacter => "hexadecimal literal is not a Unicode scalar value"
  | .badHexDigit => "invalid hexadecimal digit"
  | .unfinishedEscape => "incomplete escape sequence, reached end of pattern prematurely"
  | .unknownEscape => "unrecognized escape sequence"
  | .danglingNegation => "dangling flag negation operator"
  | .repeatedFlag => "duplicate flag"
  | .repeatedNegation => "flag negation operator repeated"
  | .unfinishedFlags => "expected flag but got end of regex"
  | .unknownFlag => "unrecognized flag"
  | .repeatedName => "duplicate capture group name"
  | .emptyName => "empty capture group name"
  | .badNameChar => "invalid capture group character"
  | .unclosedName => "unclosed capture group name"
  | .unclosedGroup => "unclosed group"
  | .unopenedGroup => "unopened group"
  | .badCount => "decimal literal invalid"
  | .noCount => "repetition quantifier expects a valid decimal"
  | .countsOutOfOrder => "invalid repetition count range, the start must be <= the end"
  | .unclosedCount => "unclosed counted repetition"
  | .nothingToRepeat => "repetition operator missing expression"
  | .unclosedBoundary =>
    "special word boundary assertion is either unclosed or contains an invalid character"
  | .unknownBoundary =>
    "unrecognized special word boundary assertion, valid choices are: start, end, start-half or " ++
      "end-half"
  | .unfinishedBoundary =>
    "found either the beginning of a special word boundary or a bounded repetition on a \\b " ++
      "with an opening brace, but no closing brace"
  | .badProperty => "invalid Unicode character class"
  | .backreference => "backreferences are not supported"
  | .lookAround => "look-around, including look-ahead and look-behind, is not supported"
  | .tooDeep limit =>
    s!"exceed the maximum number of nested parentheses/brackets ({decimalText limit})"
  | .invalidUtf8 => "pattern can match invalid UTF-8"
  | .noUnicode => "Unicode not allowed here"
  | .unknownProperty => "Unicode property not found"
  | .unknownPropertyValue => "Unicode property value not found"

/-- A fault and the places that show it, from left to right. -/
structure Flaw where
  fault : Fault
  places : List Stretch
  deriving DecidableEq

/-- A fault that shows in one place. -/
def Flaw.at (fault : Fault) (start stop : Position) : Flaw := ⟨fault, [⟨start, stop⟩]⟩

/-! ### Reports -/

/-- The lines of a text, without the characters that end them. -/
def lines (text : List Char) : List (List Char) :=
  let parts := splitAt '\n' text
  let ended := parts.dropLast.map fun line =>
    if line.getLast? = some '\r' then line.dropLast else line
  ended ++ (parts.getLast?.filter fun last => !last.isEmpty).toList

/-- The marks under some stretches of a line, from a column on.  Each has at least one mark. -/
def marks (column : Nat) : List Stretch → List Char
  | [] => []
  | s :: rest =>
    let width := max 1 (s.stop.column - s.start.column)
    List.replicate (s.start.column - column) ' ' ++ List.replicate width '^' ++
      marks (max column s.start.column + width) rest

/-- A line, with the marks under it if there are any.  Of several lines, each has its number in
    front, with a given number of digits. -/
def markedLine (width number : Nat) (places : List Stretch) (line : List Char) : List Char :=
  let margin := if width = 0 then 4 else width + 2
  let label := if width = 0 then [] else decimal number ++ [':', ' ']
  let places := places.filter fun s => s.isInLine && s.start.line == number
  let below :=
    if places.isEmpty then [] else List.replicate margin ' ' ++ marks 1 places ++ ['\n']
  List.replicate (margin - label.length) ' ' ++ label ++ line ++ '\n' :: below

/-- The lines of a text with the marks under them. -/
def markedLines (text : List Char) (places : List Stretch) : List Char :=
  let texts := lines text
  let count := texts.length + if text.getLast? = some '\n' then 1 else 0
  let width := if count ≤ 1 then 0 else (decimal count).length
  texts.zipIdx.flatMap fun (line, i) => markedLine width (i + 1) places line

/-- Where a stretch over several lines is. -/
def extent (s : Stretch) : String :=
  s!"on line {decimalText s.start.line} (column {decimalText s.start.column}) " ++
    s!"through line {decimalText s.stop.line} (column {decimalText (s.stop.column - 1)})\n"

/-- The line around a text of several lines. -/
def ruler : String := String.ofList (List.replicate 79 '~') ++ "\n"

/-- The report of a flaw in a text. -/
def Flaw.report (flaw : Flaw) (text : String) : String :=
  let marked := String.ofList (markedLines text.toList flaw.places)
  let shown :=
    if text.toList.contains '\n' then
      let extents := (flaw.places.filter fun s => !s.isInLine).map extent
      ruler ++ marked ++ ruler ++ String.join extents
    else marked
  "regex parse error:\n" ++ shown ++ "error: " ++ flaw.fault.message

example : marks 1 [⟨⟨1, 2⟩, ⟨1, 3⟩⟩, ⟨⟨1, 5⟩, ⟨1, 5⟩⟩] = " ^  ^".toList := by decide

end Pattern

end TextRules
