import TextRules.Value

namespace TextRules

/-!
# Relations

The six ways in which a rule compares the values of its two operands.
-/

/-- A relation between two values. -/
inductive Relation
  | lt
  | le
  | gt
  | ge
  | eq
  | ne
  deriving DecidableEq

namespace Relation

/-- Every relation. -/
def all : List Relation := [.lt, .le, .gt, .ge, .eq, .ne]

/-- The sign that is written between two operands. -/
def symbol : Relation → String
  | .lt => "<"
  | .le => "<="
  | .gt => ">"
  | .ge => ">="
  | .eq => "="
  | .ne => "!="

/-- The relation that a sign stands for. -/
def ofSymbol? (sign : String) : Option Relation := all.find? fun r => r.symbol = sign

/-- Why a sign was refused. -/
def unknownMessage (sign : String) : String := s!"unknown relational operator '{sign}'"

/-- Whether two values stand in the relation. -/
def holds (r : Relation) (left right : Value) : Bool :=
  match r with
  | .lt => decide (left < right)
  | .le => decide (left ≤ right)
  | .gt => decide (right < left)
  | .ge => decide (right ≤ left)
  | .eq => left == right
  | .ne => left != right

/-! ### Signs and relations -/

@[simp] theorem ofSymbol?_symbol (r : Relation) : ofSymbol? r.symbol = some r := by
  cases r <;> decide

end Relation

end TextRules
