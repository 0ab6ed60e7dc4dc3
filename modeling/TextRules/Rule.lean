import TextRules.Relation
import TextRules.Token

namespace TextRules

/-!
# Rules

A rule compares the values of two operands.
-/

/-- A relation between two operands. -/
structure Rule where
  left : Operand
  relation : Relation
  right : Operand
  deriving DecidableEq

/-- Whether a rule asks for the numbers in the checked text. -/
def Rule.readsNumbers (rule : Rule) : Bool := (rule.left ++ rule.right).any Token.readsNumbers

/-! ### Descriptions

Log records show a rule in full, part by part, so that two different rules never look the same. -/

/-- The name of a combinator in a description. -/
def Combinator.name : Combinator → String
  | .max => "Max"
  | .min => "Min"
  | .sum => "SumOf2"
  | .mean => "AvgOf2"

/-- The name of a relation in a description. -/
def Relation.name : Relation → String
  | .lt => "LessThan"
  | .le => "LessEqual"
  | .gt => "GreaterThan"
  | .ge => "GreaterEqual"
  | .eq => "Equal"
  | .ne => "NotEqual"

/-- The description of a token. -/
def Token.describe : Token → String
  | .call f => s!"Function({f.name})"
  | .leaf (.number value) => s!"Number({value.text})"
  | .leaf (.count needle) => s!"Count({quoted needle})"
  | .leaf .total => "SumAll"
  | .leaf .average => "AvgAll"

/-- The description of an operand. -/
def Operand.describe (tokens : Operand) : String :=
  "[" ++ ", ".intercalate (tokens.map Token.describe) ++ "]"

/-- The description of a rule. -/
def Rule.describe (rule : Rule) : String :=
  "Rule \x7b operand1: " ++ Operand.describe rule.left ++ ", operator: " ++ rule.relation.name ++
    ", operand2: " ++ Operand.describe rule.right ++ " \x7d"

end TextRules
