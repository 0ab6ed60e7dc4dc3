import TextRules.Log
import TextRules.Operand.Reader
import TextRules.Rule
import TextRules.Text.Brackets

namespace TextRules

/-!
# Reading rules

The text of a rule is cut at the first sign of a relation, a longer sign going before a shorter one
at the same place.  What stands before the sign is the left operand, what follows it the right one.
-/

/-- The relation whose sign a text starts with, and what follows the sign. -/
def relationAt? : List Char → Option (Relation × List Char)
  | '<' :: '=' :: rest => some (.le, rest)
  | '>' :: '=' :: rest => some (.ge, rest)
  | '!' :: '=' :: rest => some (.ne, rest)
  | '<' :: rest => some (.lt, rest)
  | '>' :: rest => some (.gt, rest)
  | '=' :: rest => some (.eq, rest)
  | _ => none

/-- A text cut at its first sign of a relation. -/
def splitAtRelation? : List Char → Option (List Char × Relation × List Char)
  | [] => none
  | c :: rest =>
    match relationAt? (c :: rest) with
    | some (relation, right) => some ([], relation, right)
    | none =>
      (splitAtRelation? rest).map fun (left, relation, right) => (c :: left, relation, right)

/-- A side of a rule. -/
inductive Side
  | left
  | right
  deriving DecidableEq

/-- The name of a side in messages. -/
def Side.name : Side → String
  | .left => "left operand"
  | .right => "right operand"

/-- Why a text is not a rule. -/
inductive RuleError
  | notInFormat
  | badOperand (side : Side) (cause : OperandError)
  deriving DecidableEq

/-- The wording of a rule error. -/
def RuleError.message : RuleError → String
  | .notInFormat => "Rule is not in format"
  | .badOperand side cause => s!"Invalid Rule: {side.name}: {cause.message}"

/-- The operand on one side of a rule. -/
def Rule.parseSide (side : Side) (text : String) : Except RuleError Operand :=
  (Operand.parse text).mapError (.badOperand side)

/-- The rule that a text writes.  Its brackets have to be balanced, and something has to follow the
    sign of the relation. -/
def Rule.parse (text : String) : Except RuleError Rule :=
  if balanced text then
    match splitAtRelation? text.toList with
    | none | some (_, _, []) => .error .notInFormat
    | some (leftText, relation, rightText) => do
      let left ← Rule.parseSide .left (String.ofList leftText)
      let right ← Rule.parseSide .right (String.ofList rightText)
      return ⟨left, relation, right⟩
  else .error .notInFormat

/-! ### With a report -/

/-- Reads an operand for a caller that takes no tokens for an answer to a bad text. -/
def Operand.readOrReport (text : String) : Logged Operand :=
  match Operand.read text with
  | .ok tokens => pure tokens
  | .error cause => do
    Logged.report .debug .lexer s!"Rejected operand '{text}': {cause.message}"
    return []

/-- Reads a rule and reports brackets that do not match, or the rule that was found. -/
def Rule.read (text : String) : Logged (Except RuleError Rule) :=
  if balanced text then
    match Rule.parse text with
    | .error cause => pure (.error cause)
    | .ok rule => do
      Logged.report .debug .parser s!"Parsed '{text}' into {rule.describe}"
      return .ok rule
  else do
    Logged.report .debug .parser s!"Unbalanced parentheses in '{text}'"
    return .error .notInFormat

@[simp] theorem Rule.value_read (text : String) : (Rule.read text).value = Rule.parse text := by
  unfold Rule.read
  split
  · cases Rule.parse text <;> rfl
  · next h => simp [Rule.parse, h]

end TextRules
