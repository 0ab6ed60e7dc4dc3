import TextRules.Proofs.CombinatorLaws
import TextRules.Proofs.Evaluation

namespace TextRules

/-!
# The order of arguments

Swapping the two arguments of a function moves whole stretches of an operand: other leaves are read
first, and other results lie on the stack when a function combines its two.  This file shows that
the outcome stays the same, for any choice of places at which arguments are swapped.

* `Expr.swapAt` — an expression with the arguments swapped at the chosen places.
* `bind_bind_comm` — two computations that can only fail for one cause may be done in either order.
* `Expr.result_swapAt` — so results of any kind do not depend on the order of arguments, if no
  function that combines them does and there is only one cause for which a leaf can fail.
* `Expr.value_free_of_argument_order` — values are of this kind.
-/

/-! ### Swapped arguments -/

/-- A turn on the way from an expression to a part of it.  The place of a part is the list of the
    turns that lead to it. -/
inductive Turn
  | left
  | right
  deriving DecidableEq

/-- The expression with the two arguments swapped in every call at a chosen place.  Places are those
    of the expression before anything is swapped. -/
def Expr.swapAt (chosen : List Turn → Bool) : Expr → Expr
  | .leaf l => .leaf l
  | .call f left right =>
    let left' := left.swapAt fun turns => chosen (.left :: turns)
    let right' := right.swapAt fun turns => chosen (.right :: turns)
    if chosen [] then .call f right' left' else .call f left' right'

/-! ### Results -/

section Result

variable {ε α β γ V : Type}

/-- Two computations that can only fail for one cause may be done in either order. -/
theorem bind_bind_comm {x : Except ε α} {y : Except ε β} {cause : ε} {g : α → β → γ}
    {g' : β → α → γ} (hx : ∀ e, x = .error e → e = cause) (hy : ∀ e, y = .error e → e = cause)
    (hg : ∀ a b, g a b = g' b a) :
    (x.bind fun a => y.bind fun b => .ok (g a b)) =
      y.bind fun b => x.bind fun a => .ok (g' b a) := by
  cases x with
  | ok a =>
    cases y with
    | ok b => exact congrArg Except.ok (hg a b)
    | error e => rfl
  | error e =>
    obtain rfl := hx e rfl
    cases y with
    | ok b => rfl
    | error e' =>
      obtain rfl := hy e' rfl
      rfl

variable {r : Reading ε V} {cause : ε}

/-- An expression fails for no other cause than its leaves do. -/
theorem Expr.eq_cause_of_result (hfault : ∀ l e, r.leaf l = .error e → e = cause) {e : Expr}
    {fault : ε} (h : e.result r = .error fault) : fault = cause := by
  obtain ⟨l, -, hl⟩ := List.exists_of_findSome?_eq_some (result_eq_error_iff.mp h)
  apply hfault l
  unfold Reading.fault? at hl
  split at hl
  · next hleaf => rw [hleaf, Option.some.inj hl]
  · cases hl

/-- **Results do not depend on the order of arguments**, where no function does and leaves fail for
    one cause only. -/
theorem Expr.result_swapAt (hcomm : ∀ f a b, r.combine f a b = r.combine f b a)
    (hfault : ∀ l e, r.leaf l = .error e → e = cause) (e : Expr) (chosen : List Turn → Bool) :
    (e.swapAt chosen).result r = e.result r := by
  induction e generalizing chosen with
  | leaf l => rfl
  | call f left right ihl ihr =>
    have hleft := ihl fun turns => chosen (.left :: turns)
    have hright := ihr fun turns => chosen (.right :: turns)
    rw [swapAt]
    split
    · -- the right argument is read first, and what it gives lies on the left
      rw [result_call, result_call, hleft, hright]
      exact bind_bind_comm (fun _ => eq_cause_of_result hfault)
        (fun _ => eq_cause_of_result hfault) (hcomm f)
    · rw [result_call, result_call, hleft, hright]

end Result

/-! ### Values -/

/-- **The order of arguments does not matter.** Swap the arguments of any calls in an expression.
    For every subject, whether it has its statistics or not, the tokens of the one expression have
    the same value as those of the other, or both fail for want of numbers. -/
theorem Expr.value_free_of_argument_order (e : Expr) (chosen : List Turn → Bool) (s : Subject) :
    Operand.value s (e.swapAt chosen).tokens = Operand.value s e.tokens ∧
    ((∃ v, Operand.value s e.tokens = .ok v) ∨ Operand.value s e.tokens = .error .noNumbers) := by
  have hfault : ∀ l cause, Leaf.value s l = .error cause → cause = .noNumbers := fun l cause h =>
    (Leaf.value_eq_error_iff.mp h).1
  constructor
  · rw [Operand.value, Operand.value, Reading.reduce_tokens, Reading.reduce_tokens]
    exact result_swapAt Combinator.apply_comm hfault e chosen
  · cases hvalue : Operand.value s e.tokens with
    | ok v => exact .inl ⟨v, rfl⟩
    | error cause =>
      rw [Operand.value, Reading.reduce_tokens] at hvalue
      rw [eq_cause_of_result hfault hvalue]
      exact .inr rfl

/- Swapped at the root and below it, the tokens come in another order altogether. -/
example : (Expr.swapAt (fun turns => turns.length < 2) (.call .max
      (.call .mean (.leaf .total) (.leaf (.number 1))) (.leaf .average))).tokens =
    [.call .max, .leaf .average, .call .mean, .leaf (.number 1), .leaf .total] := by decide

end TextRules
