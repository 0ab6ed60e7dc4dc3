import TextRules.Token

namespace TextRules

/-!
# Reduction of operands

An operand is well-formed when it is one complete expression in prefix order.  It is reduced to a
single result from left to right with a stack of slots: a function opens a slot that waits for two
results, and a leaf gives a result.  A result that meets another one on top of a waiting slot is
combined with it, and the combined result goes on in the same way.
-/

/-- Why a list of tokens is not one complete expression. -/
inductive ShapeError
  | noTokens
  | surplusOperand
  | missingOperand
  deriving DecidableEq

/-- The wording of a shape error. -/
def ShapeError.message : ShapeError → String
  | .noTokens => "expression has no tokens"
  | .surplusOperand => "expression has an operand no function takes"
  | .missingOperand => "expression is missing an operand"

/-- A place on the stack: a function that waits for two results, or a result. -/
inductive Slot (P V : Type)
  | waiting (f : P)
  | ready (value : V)
  deriving DecidableEq

section Stack

variable {P V : Type}

/-- Adds a result to a stack, which is given from the top, and combines it with the results that
    were waiting for it.  Two results without a function below them are one too many. -/
def settle (combine : P → V → V → V) :
    List (Slot P V) → V → Except ShapeError (List (Slot P V))
  | .ready left :: .waiting f :: rest, value => settle combine rest (combine f left value)
  | .ready _ :: _, _ => .error .surplusOperand
  | slots, value => .ok (.ready value :: slots)

/-- The only result that is left on a stack. -/
def finish : List (Slot P V) → Except ShapeError V
  | [] => .error .noTokens
  | [.ready value] => .ok value
  | _ => .error .missingOperand

end Stack

/-- What an operand is reduced with: the result of each leaf, which may fail, the way a function
    combines two results, and the failure that stands for a bad shape. -/
structure Reading (ε V : Type) where
  leaf : Leaf → Except ε V
  combine : Combinator → V → V → V
  badShape : ShapeError → ε

namespace Reading

variable {ε V : Type} (r : Reading ε V)

/-- The stack after one more token. -/
def step (slots : List (Slot Combinator V)) : Token → Except ε (List (Slot Combinator V))
  | .call f => .ok (.waiting f :: slots)
  | .leaf l =>
    match r.leaf l with
    | .error e => .error e
    | .ok value => (settle r.combine slots value).mapError r.badShape

/-- The stack after the tokens of an operand. -/
def run (slots : List (Slot Combinator V)) (tokens : Operand) :
    Except ε (List (Slot Combinator V)) :=
  tokens.foldlM r.step slots

/-- The result of an operand. -/
def reduce (tokens : Operand) : Except ε V :=
  match r.run [] tokens with
  | .error e => .error e
  | .ok slots => (finish slots).mapError r.badShape

/-! ### Token by token -/

@[simp] theorem run_nil (slots : List (Slot Combinator V)) : r.run slots [] = .ok slots := rfl

theorem run_cons (slots : List (Slot Combinator V)) (t : Token) (rest : Operand) :
    r.run slots (t :: rest) = (r.step slots t).bind (r.run · rest) := rfl

theorem run_append (slots : List (Slot Combinator V)) (tokens rest : Operand) :
    r.run slots (tokens ++ rest) = (r.run slots tokens).bind (r.run · rest) := by
  simp [run, List.foldlM_append, bind]

end Reading

/-! ### The shape alone -/

/-- Reads the shape of an operand and nothing else. -/
def shapeReading : Reading ShapeError Unit where
  leaf _ := .ok ()
  combine _ _ _ := ()
  badShape := id

/-- Succeeds when an operand is one complete expression, and otherwise tells what is wrong. -/
def Operand.check (tokens : Operand) : Except ShapeError Unit := shapeReading.reduce tokens

/-- Whether an operand is one complete expression. -/
def Operand.wellFormed (tokens : Operand) : Bool := (Operand.check tokens).isOk

example : Operand.wellFormed [.call .max, .leaf .total, .leaf .average] = true := by decide

example : Operand.check [.leaf .total, .leaf .average] = .error .surplusOperand := by rfl

example : Operand.check [.leaf .total, .call .max] = .error .missingOperand := by rfl

end TextRules
