import TextRules.Value

namespace TextRules

/-!
# Combinators

The functions of the rule language.  Each takes exactly two values.
-/

/-- A function of two values. -/
inductive Combinator
  | max
  | min
  | sum
  | mean
  deriving DecidableEq

namespace Combinator

/-- Every combinator. -/
def all : List Combinator := [.max, .min, .sum, .mean]

/-- The word that calls a combinator. -/
def keyword : Combinator → String
  | .max => "max"
  | .min => "min"
  | .sum => "sumof2"
  | .mean => "avgof2"

/-- The combinator that a word calls. -/
def ofKeyword? (word : String) : Option Combinator := all.find? fun f => f.keyword = word

/-- The value of a combinator at a left and a right argument.  A sum is held inside the range of
    values; a mean is put together from the halves, so that no step of it leaves the range. -/
def apply (f : Combinator) (left right : Value) : Value :=
  match f with
  | .max => if left ≤ right then right else left
  | .min => if left ≤ right then left else right
  | .sum => left.addClamped right
  | .mean => left / 2 + right / 2 + (left % 2 + right % 2) / 2

/-! ### Words and combinators -/

@[simp] theorem ofKeyword?_keyword (f : Combinator) : ofKeyword? f.keyword = some f := by
  cases f <;> decide

theorem keyword_of_ofKeyword? {word : String} {f : Combinator} (h : ofKeyword? word = some f) :
    f.keyword = word := by
  simpa using List.find?_some h

example : apply .mean 6 3 = 4 ∧ apply .sum Int64.maxValue 1 = Int64.maxValue := by decide

end Combinator

end TextRules
