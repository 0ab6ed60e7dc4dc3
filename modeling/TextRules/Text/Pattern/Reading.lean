import TextRules.Text.Pattern.Footprint
import TextRules.Text.Pattern.Meaning

namespace TextRules

/-!
# Patterns from texts

The pattern that a text writes, unless the text has a flaw or the pattern needs too much memory.
-/

/-- Why a text gives no pattern. -/
inductive PatternError
  | malformed (text : String) (flaw : Pattern.Flaw)
  | tooLarge
  deriving DecidableEq

/-- The wording of the reason. -/
def PatternError.message : PatternError → String
  | .malformed text flaw => flaw.report text
  | .tooLarge => s!"Compiled regex exceeds size limit of {decimalText Pattern.memory} bytes."

namespace Pattern

/-- The pattern that a text writes. -/
def read (text : String) : Except PatternError Pattern :=
  match (Tree.read text.toList).bind fun tree => tree.pattern firstFlags with
  | .error flaw => .error (.malformed text flaw)
  | .ok (p, _) => if p.fits then .ok p else .error .tooLarge

end Pattern

end TextRules
