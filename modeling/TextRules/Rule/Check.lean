import TextRules.Evaluation
import TextRules.Log
import TextRules.Rule

namespace TextRules

/-!
# Checking rules

A rule is checked by evaluating its left operand, then its right one, and comparing the two values.
Several rules are checked in order against one subject, up to the first that fails.
-/

/-- The values of the two operands of a rule. -/
structure Comparison where
  left : Value
  relation : Relation
  right : Value
  deriving DecidableEq

/-- Whether the values stand in the relation. -/
def Comparison.holds (c : Comparison) : Bool := c.relation.holds c.left c.right

/-- A comparison with its outcome, as log records show it. -/
def Comparison.describe (c : Comparison) : String :=
  let outcome := if c.holds then "true" else "false"
  s!"{c.left.text} {c.relation.symbol} {c.right.text} => {outcome}"

namespace Rule

/-- The comparison that a rule asks for. -/
def compare (s : Subject) (rule : Rule) : Except EvalError Comparison := do
  let left ← Operand.value s rule.left
  let right ← Operand.value s rule.right
  return ⟨left, rule.relation, right⟩

/-- Whether a rule holds of a subject, with a report of the comparison. -/
def check (s : Subject) (rule : Rule) : Logged (Except EvalError Bool) :=
  match compare s rule with
  | .error cause => pure (.error cause)
  | .ok comparison => do
    Logged.report .trace .evaluator comparison.describe
    return .ok comparison.holds

/-- Whether a rule holds of a text. -/
def checkText (policy : EmptyPolicy) (text : String) (rule : Rule) :
    Logged (Except EvalError Bool) :=
  check (Subject.ofText policy text) rule

/-- Whether each of several rules holds of a text, whose numbers are looked up once. -/
def checkAllText (policy : EmptyPolicy) (text : String) (rules : List Rule) :
    Logged (Except EvalError (List Bool)) :=
  Logged.forEach (check (Subject.ofText policy text)) rules

theorem value_check (s : Subject) (rule : Rule) :
    (check s rule).value = (compare s rule).map Comparison.holds := by
  unfold check
  cases compare s rule <;> rfl

end Rule

end TextRules
