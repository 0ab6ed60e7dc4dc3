import TextRules.Numbers
import TextRules.Operand.Reduction
import TextRules.Text.Occurrences

namespace TextRules

/-!
# Evaluation of operands

An operand is evaluated against a subject, the text that is checked together with what is known
about its numbers.  A text without numbers has no sum and no average; a policy decides whether both
then count as zero or asking for them fails.
-/

/-- What the sum and the average of a text without numbers are. -/
inductive EmptyPolicy
  | zero
  | reject
  deriving DecidableEq

/-- Everything that an operand can ask for: the checked text, and the sum and the average of its
    numbers where they are available. -/
structure Subject where
  text : String
  total : Option Value
  average : Option Value
  deriving DecidableEq

/-- A text with the statistics of its own numbers. -/
def Subject.ofText (policy : EmptyPolicy) (text : String) : Subject :=
  let stats := NumberStats.ofText text
  match stats.average?, policy with
  | some average, _ => ⟨text, some stats.total, some average⟩
  | none, .zero => ⟨text, some 0, some 0⟩
  | none, .reject => ⟨text, none, none⟩

/-- Why an operand has no value. -/
inductive EvalError
  | malformed (cause : ShapeError)
  | noNumbers
  deriving DecidableEq

/-- The wording of an evaluation error. -/
def EvalError.message : EvalError → String
  | .malformed cause => s!"cannot evaluate a malformed expression: {cause.message}"
  | .noNumbers => "input contains no numbers to aggregate"

/-- The value of an optional statistic, or the failure to have one. -/
def available (statistic : Option Value) : Except EvalError Value :=
  match statistic with
  | some value => .ok value
  | none => .error .noNumbers

/-- The value of a leaf. -/
def Leaf.value (s : Subject) : Leaf → Except EvalError Value
  | .number value => .ok value
  | .count needle => .ok (Value.clamp (occurrences needle s.text))
  | .total => available s.total
  | .average => available s.average

/-- Reads the value of an operand. -/
def valueReading (s : Subject) : Reading EvalError Value where
  leaf := Leaf.value s
  combine := Combinator.apply
  badShape := .malformed

/-- The value of an operand. -/
def Operand.value (s : Subject) (tokens : Operand) : Except EvalError Value :=
  (valueReading s).reduce tokens

end TextRules
