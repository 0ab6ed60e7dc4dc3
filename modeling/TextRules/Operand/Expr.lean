import TextRules.Operand.Reduction

namespace TextRules

/-!
# Expressions

The tree that a well-formed operand stands for.  Its tokens are its parts in prefix order, and it
has a result by recursion, without a stack.
-/

/-- An expression: a leaf, or a function with a left and a right argument. -/
inductive Expr
  | leaf (l : Leaf)
  | call (f : Combinator) (left right : Expr)
  deriving DecidableEq

namespace Expr

/-- The parts of an expression in prefix order. -/
def tokens : Expr → Operand
  | .leaf l => [.leaf l]
  | .call f left right => .call f :: (left.tokens ++ right.tokens)

/-- The leaves of an expression from left to right. -/
def leaves : Expr → List Leaf
  | .leaf l => [l]
  | .call _ left right => left.leaves ++ right.leaves

/-- The result of an expression: its leaves are read from left to right, and the first failure is
    the failure of the whole. -/
def result {ε V : Type} (r : Reading ε V) : Expr → Except ε V
  | .leaf l => r.leaf l
  | .call f left right => do
    let leftResult ← left.result r
    let rightResult ← right.result r
    return r.combine f leftResult rightResult

/-- The result of an expression all of whose leaves have one. -/
def fold {V : Type} (combine : Combinator → V → V → V) (leafResult : Leaf → V) : Expr → V
  | .leaf l => leafResult l
  | .call f left right => combine f (left.fold combine leafResult) (right.fold combine leafResult)

theorem tokens_ne_nil (e : Expr) : e.tokens ≠ [] := by
  cases e <;> simp [tokens]

/-! ### Results part by part -/

section Result

variable {ε V : Type} (r : Reading ε V)

@[simp] theorem result_leaf (l : Leaf) : (Expr.leaf l).result r = r.leaf l := rfl

theorem result_call (f : Combinator) (left right : Expr) :
    (Expr.call f left right).result r =
      (left.result r).bind fun a => (right.result r).bind fun b => .ok (r.combine f a b) := rfl

end Result

end Expr

end TextRules
