import TextRules.Json.Writer
import TextRules.Rule
import TextRules.Stored.Reading

namespace TextRules

/-!
# Stored rules

Tokens and relations are stored as words, operands as lists of words, and a rule as an object with
its three parts.
-/

namespace Stored

open Json (Draft)

/-! ### Tokens and relations -/

/-- Writes a token. -/
def writeToken (t : Token) : Json := .str t.text

/-- Reads a token. -/
def readToken (d : Draft) : Except ReadError Token := do
  let word ← readString d
  match Token.ofText? word with
  | some t => .ok t
  | none => .error (.invalidToken word)

/-- Writes an operand. -/
def writeOperand (tokens : Operand) : Json := .arr (tokens.map writeToken)

/-- Reads an operand, whether or not it is well-formed. -/
def readOperand (d : Draft) : Except ReadError Operand := readList readToken d

/-- Writes a relation. -/
def writeRelation (r : Relation) : Json := .str r.symbol

/-- Reads a relation. -/
def readRelation (d : Draft) : Except ReadError Relation := do
  let sign ← readString d
  match Relation.ofSymbol? sign with
  | some r => .ok r
  | none => .error (.unknownRelation sign)

/-! ### Rules -/

/-- The members of a stored rule. -/
def ruleMembers (rule : Rule) : List (String × Json) :=
  [("operand1", writeOperand rule.left), ("operator", writeRelation rule.relation),
    ("operand2", writeOperand rule.right)]

/-- Writes a rule. -/
def writeRule (rule : Rule) : Json := .obj (ruleMembers rule)

/-- The parts of a rule that have been read. -/
structure RuleParts where
  left : Option Operand
  relation : Option Relation
  right : Option Operand

namespace RuleParts

/-- Nothing has been read. -/
def empty : RuleParts := ⟨none, none, none⟩

/-- Reads one more member. -/
def put (parts : RuleParts) (name : String) (value : Draft) : Except ReadError RuleParts :=
  match name with
  | "operand1" => (readOnce name readOperand parts.left value).map ({ parts with left := · })
  | "operator" =>
    (readOnce name readRelation parts.relation value).map ({ parts with relation := · })
  | "operand2" => (readOnce name readOperand parts.right value).map ({ parts with right := · })
  | _ => skip parts value

/-- The rule, if all its parts have been read. -/
def rule (parts : RuleParts) : Except ReadError Rule := do
  let left ← require "operand1" parts.left
  let relation ← require "operator" parts.relation
  let right ← require "operand2" parts.right
  return ⟨left, relation, right⟩

end RuleParts

/-- Reads a rule: an object, or the three parts as an array. -/
def readRule : Draft → Except ReadError Rule
  | .obj members => do
    let parts ← readMembers RuleParts.put .empty members
    parts.rule
  | .arr items => do
    let left ← readOperand (items.getD 0 .broken)
    let relation ← readRelation (items.getD 1 .broken)
    let right ← readOperand (items.getD 2 .broken)
    if items.length = 3 then .ok ⟨left, relation, right⟩ else .error .malformed
  | _ => .error .malformed

/-- Writes a list of rules. -/
def writeRules (rules : List Rule) : Json := .arr (rules.map writeRule)

/-- Reads a list of rules. -/
def readRules (d : Draft) : Except ReadError (List Rule) := readList readRule d

/-- Reads a list of texts. -/
def readTexts (d : Draft) : Except ReadError (List String) := readList readString d

end Stored

end TextRules
