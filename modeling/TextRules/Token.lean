import TextRules.Combinator
import TextRules.Text.Quoted

namespace TextRules

/-!
# Tokens

An operand is a nested call such as `max(count('a'), 3)`, kept as the list of its atoms with each
function in front of its arguments.  The atoms are tokens: a function that two expressions follow,
or a leaf that stands for a value by itself.  A token has a stored form, one word of text.
-/

/-- The word before a text that is to be counted. -/
def countKeyword : String := "count"

/-- The word for the sum of the numbers in the checked text. -/
def totalKeyword : String := "sumofallnumberfromstring"

/-- The word for the average of the numbers in the checked text. -/
def averageKeyword : String := "avgofallnumberfromstring"

/-- A part of an operand that has a value by itself. -/
inductive Leaf
  | number (value : Value)
  | count (needle : String)
  | total
  | average
  deriving DecidableEq

/-- An atom of an operand. -/
inductive Token
  | call (f : Combinator)
  | leaf (l : Leaf)
  deriving DecidableEq

/-- Tokens in prefix order: each function comes before its left argument, and that before the
    right one. -/
abbrev Operand := List Token

namespace Leaf

/-- The stored form of a leaf. -/
def text : Leaf → String
  | .number value => value.text
  | .count needle => countKeyword ++ "-" ++ needle
  | .total => totalKeyword
  | .average => averageKeyword

/-- Whether a leaf asks for the numbers in the checked text. -/
def readsNumbers : Leaf → Bool
  | .total | .average => true
  | .number _ | .count _ => false

end Leaf

namespace Token

/-- The stored form of a token. -/
def text : Token → String
  | .call f => f.keyword
  | .leaf l => l.text

/-- Whether a token stands for a value by itself. -/
def isLeaf : Token → Bool
  | .call _ => false
  | .leaf _ => true

/-- Whether a token asks for the numbers in the checked text. -/
def readsNumbers : Token → Bool
  | .call _ => false
  | .leaf l => l.readsNumbers

/-- The number that a run of digits writes, if it is a value. -/
def number? (word : List Char) : Option Value :=
  if isDecimal word then Value.ofNat? (decimalValue word) else none

/-- The tokens that a fixed word stands for. -/
def ofKeyword? (word : String) : Option Token :=
  match Combinator.ofKeyword? word with
  | some f => some (.call f)
  | none =>
    if word = totalKeyword then some (.leaf .total)
    else if word = averageKeyword then some (.leaf .average)
    else none

/-- The text after the mark of a stored count.  There is at least one character of it. -/
def countedText? (word : List Char) : Option (List Char) :=
  let mark := (countKeyword ++ "-").toList
  if mark.isPrefixOf word ∧ mark.length < word.length then some (word.drop mark.length) else none

/-- The token with a given stored form. -/
def ofText? (word : String) : Option Token :=
  match ofKeyword? word with
  | some token => some token
  | none =>
    match countedText? word.toList with
    | some needle => some (.leaf (.count (String.ofList needle)))
    | none => (number? word.toList).map fun value => .leaf (.number value)

/-- Why a word was refused as a stored form. -/
def invalidMessage (word : String) : String := s!"'{word}' is not a valid token"

end Token

example : (Token.ofText? "count-aa").map Token.text = some "count-aa" := by decide +kernel

example : (Token.ofText? "007").map Token.text = some "7" := by decide +kernel

example : Token.ofText? "count-" = none ∧ Token.ofText? "9223372036854775808" = none := by
  decide +kernel

end TextRules
