import Mathlib.Data.List.Forall2
import TextRules.Operand.Expr
import TextRules.Proofs.Outcome

namespace TextRules

/-!
# Reduction against recursion

The reduction of an operand never sees a tree: it works on a stack of slots, token by token.  This
file ties it to the trees.

* `Reading.run_tokens` — on any stack whatever, the tokens of an expression do what settling the
  recursive result of the expression would do.  The stack below is left alone until the expression
  is complete.
* `Reading.Related.run` — two readings whose leaves, combinators and faults correspond stay in
  correspondence over every list of tokens, well-formed or not.  The shape of an operand and its
  value are compared in this way, and so is the tree that an operand lists.
* `Operand.check_eq_surplusOperand_iff` — a surplus operand is a fault of the run; the other two
  faults show only when the tokens are used up.
-/

/-! ### One result on a stack -/

/-- Two slots correspond when they wait for the same function or hold related results. -/
inductive Slot.Rel {P V W : Type} (R : V → W → Prop) : Slot P V → Slot P W → Prop
  | waiting (f : P) : Slot.Rel R (.waiting f) (.waiting f)
  | ready {v : V} {w : W} (h : R v w) : Slot.Rel R (.ready v) (.ready w)

section Stack

variable {P V W : Type}

@[simp] theorem settle_ready_waiting (combine : P → V → V → V) (left : V) (f : P)
    (slots : List (Slot P V)) (value : V) :
    settle combine (.ready left :: .waiting f :: slots) value =
      settle combine slots (combine f left value) := by
  rw [settle]

/-- Settling fails in one way only. -/
theorem eq_surplusOperand_of_settle {combine : P → V → V → V} {slots : List (Slot P V)}
    {value : V} {cause : ShapeError} (h : settle combine slots value = .error cause) :
    cause = .surplusOperand := by
  fun_induction settle combine slots value with
  | case1 left f rest value ih => exact ih h
  | case2 => exact (Except.error.inj h).symm
  | case3 => cases h

/-- A surplus operand is not what is wrong with a stack at the end. -/
theorem finish_ne_surplusOperand (slots : List (Slot P V)) :
    finish slots ≠ .error .surplusOperand := by
  intro h
  unfold finish at h
  split at h <;> simp at h

/-- Corresponding stacks settle corresponding results in corresponding ways. -/
theorem settle_rel {R : V → W → Prop} {combine : P → V → V → V} {combine' : P → W → W → W}
    (hc : ∀ f a a' b b', R a a' → R b b' → R (combine f a b) (combine' f a' b'))
    {slots : List (Slot P V)} {slots' : List (Slot P W)} {value : V} {value' : W}
    (hs : List.Forall₂ (Slot.Rel R) slots slots') (hv : R value value') :
    Agree Eq (List.Forall₂ (Slot.Rel R)) (settle combine slots value)
      (settle combine' slots' value') := by
  fun_induction settle combine slots value generalizing slots' value' with
  | case1 left f rest value ih =>
    obtain _ | ⟨hl, _ | ⟨hf, hs⟩⟩ := hs
    cases hl with
    | ready hl =>
      cases hf
      rw [settle_ready_waiting]
      exact ih hs (hc f _ _ _ _ hl hv)
  | case2 left rest value hrest =>
    -- nothing waits below, on either side
    obtain _ | ⟨hl, hs⟩ := hs
    cases hl with
    | ready hl =>
      cases hs with
      | nil => exact .error rfl
      | cons hb _ =>
        cases hb with
        | waiting f => exact absurd rfl (hrest _ _)
        | ready _ => exact .error rfl
  | case3 slots value _ hslots =>
    cases hs with
    | nil => exact .ok (.cons (.ready hv) .nil)
    | cons hb hs =>
      cases hb with
      | waiting f => exact .ok (.cons (.ready hv) (.cons (.waiting f) hs))
      | ready _ => exact absurd rfl (hslots _ _)

/-- Corresponding stacks finish in corresponding ways. -/
theorem finish_rel {R : V → W → Prop} {slots : List (Slot P V)} {slots' : List (Slot P W)}
    (hs : List.Forall₂ (Slot.Rel R) slots slots') : Agree Eq R (finish slots) (finish slots') := by
  obtain _ | ⟨ht, _ | ⟨_, _⟩⟩ := hs
  · exact .error rfl
  · cases ht with
    | waiting f => exact .error rfl
    | ready h => exact .ok h
  · cases ht <;> exact .error rfl

end Stack

/-! ### A whole run -/

namespace Reading

section Equations

variable {ε V : Type} (r : Reading ε V)

theorem step_leaf (slots : List (Slot Combinator V)) (l : Leaf) :
    r.step slots (.leaf l) =
      (r.leaf l).bind fun value => (settle r.combine slots value).mapError r.badShape := by
  simp only [step]
  cases r.leaf l <;> rfl

theorem run_singleton (slots : List (Slot Combinator V)) (t : Token) :
    r.run slots [t] = r.step slots t := by
  rw [run_cons]
  cases r.step slots t <;> rfl

theorem reduce_eq_bind (tokens : Operand) :
    r.reduce tokens =
      (r.run [] tokens).bind fun slots => (finish slots).mapError r.badShape := by
  unfold reduce
  cases r.run [] tokens <;> rfl

end Equations

/-- Two readings correspond on some leaves when their results and their faults do. -/
structure Related {ε ε' V W : Type} (E : ε → ε' → Prop) (R : V → W → Prop) (L : Leaf → Prop)
    (r : Reading ε V) (r' : Reading ε' W) : Prop where
  leaf : ∀ l, L l → Agree E R (r.leaf l) (r'.leaf l)
  combine : ∀ f a a' b b', R a a' → R b b' → R (r.combine f a b) (r'.combine f a' b')
  badShape : ∀ cause, E (r.badShape cause) (r'.badShape cause)

section Related

variable {ε ε' V W : Type} {E : ε → ε' → Prop} {R : V → W → Prop} {L : Leaf → Prop}
  {r : Reading ε V} {r' : Reading ε' W} {slots : List (Slot Combinator V)}
  {slots' : List (Slot Combinator W)}

/-- One token keeps corresponding stacks in correspondence. -/
theorem Related.step (h : Related E R L r r') (hs : List.Forall₂ (Slot.Rel R) slots slots')
    {t : Token} (ht : ∀ l, t = .leaf l → L l) :
    Agree E (List.Forall₂ (Slot.Rel R)) (r.step slots t) (r'.step slots' t) := by
  cases t with
  | call f => exact .ok (.cons (.waiting f) hs)
  | leaf l =>
    rw [step_leaf, step_leaf]
    refine (h.leaf l (ht l rfl)).bind fun value value' hv => ?_
    exact (settle_rel h.combine hs hv).mapError fun cause _ hcause => hcause ▸ h.badShape cause

/-- A list of tokens keeps corresponding stacks in correspondence. -/
theorem Related.run (h : Related E R L r r') {tokens : Operand}
    (ht : ∀ l, Token.leaf l ∈ tokens → L l) (hs : List.Forall₂ (Slot.Rel R) slots slots') :
    Agree E (List.Forall₂ (Slot.Rel R)) (r.run slots tokens) (r'.run slots' tokens) := by
  induction tokens generalizing slots slots' with
  | nil => exact .ok hs
  | cons t rest ih =>
    rw [run_cons, run_cons]
    have hstep := h.step hs (t := t) fun l hl => ht l (hl ▸ List.mem_cons_self)
    exact hstep.bind fun _ _ hs' => ih (fun l hl => ht l (List.mem_cons_of_mem t hl)) hs'

/-- **Corresponding readings give corresponding outcomes** on every list of tokens. -/
theorem Related.reduce (h : Related E R L r r') {tokens : Operand}
    (ht : ∀ l, Token.leaf l ∈ tokens → L l) : Agree E R (r.reduce tokens) (r'.reduce tokens) := by
  rw [reduce_eq_bind, reduce_eq_bind]
  refine (h.run ht .nil).bind fun slots slots' hs => ?_
  exact (finish_rel hs).mapError fun cause _ hcause => hcause ▸ h.badShape cause

end Related

/-! ### An expression on a stack -/

section Expression

variable {ε V : Type} (r : Reading ε V)

/-- **An expression on a stack.** Its tokens settle its result and do nothing else, whatever lies
    on the stack: what was there before them is not looked at until the expression is complete. -/
theorem run_tokens (e : Expr) (slots : List (Slot Combinator V)) :
    r.run slots e.tokens =
      (e.result r).bind fun value => (settle r.combine slots value).mapError r.badShape := by
  induction e generalizing slots with
  | leaf l => rw [Expr.tokens, run_singleton, step_leaf, Expr.result_leaf]
  | call f left right ihl ihr =>
    rw [Expr.tokens, run_cons, Expr.result_call]
    show r.run (.waiting f :: slots) (left.tokens ++ right.tokens) = _
    rw [run_append, ihl]
    cases left.result r with
    | error cause => rfl
    | ok a =>
      -- the slot of `f` is on top, so the left result stays on it and the right one folds
      show r.run (.ready a :: .waiting f :: slots) right.tokens = _
      rw [ihr]
      cases right.result r with
      | error cause => rfl
      | ok b =>
        show (settle r.combine (.ready a :: .waiting f :: slots) b).mapError r.badShape = _
        rw [settle_ready_waiting]
        rfl

/-- An expression is reduced to its recursive result. -/
theorem reduce_tokens (e : Expr) : r.reduce e.tokens = e.result r := by
  rw [reduce_eq_bind, run_tokens]
  cases e.result r <;> rfl

end Expression

end Reading

/-! ### Where a surplus operand shows -/

/-- The shape of an operand is what the run leaves at the end. -/
theorem Operand.check_eq_bind (tokens : Operand) :
    Operand.check tokens = (shapeReading.run [] tokens).bind finish := by
  rw [Operand.check, Reading.reduce_eq_bind]
  congr 1
  funext slots
  exact mapError_id (finish slots)

/-- A leaf of any kind is a result of its own when the shape is read. -/
theorem shapeReading_step_leaf (slots : List (Slot Combinator Unit)) (l : Leaf) :
    shapeReading.step slots (.leaf l) = settle shapeReading.combine slots () := by
  rw [Reading.step_leaf]
  exact mapError_id (settle shapeReading.combine slots ())

/-- A run fails over the shape of its tokens only by an operand too many. -/
theorem eq_surplusOperand_of_run {slots : List (Slot Combinator Unit)} {tokens : Operand}
    {cause : ShapeError} (h : shapeReading.run slots tokens = .error cause) :
    cause = .surplusOperand := by
  induction tokens generalizing slots with
  | nil => cases h
  | cons t rest ih =>
    rw [Reading.run_cons] at h
    cases hstep : shapeReading.step slots t with
    | ok next =>
      rw [hstep] at h
      exact ih h
    | error cause' =>
      rw [hstep] at h
      obtain rfl : cause' = cause := Except.error.inj h
      cases t with
      | call f => cases hstep
      | leaf l =>
        rw [shapeReading_step_leaf] at hstep
        exact eq_surplusOperand_of_settle hstep

/-- **A surplus operand is a fault of the run.** It shows as soon as it is read, and never at the
    end of the tokens. -/
theorem Operand.check_eq_surplusOperand_iff (tokens : Operand) :
    Operand.check tokens = .error .surplusOperand ↔
      shapeReading.run [] tokens = .error .surplusOperand := by
  rw [Operand.check_eq_bind]
  cases shapeReading.run [] tokens with
  | error cause => simp [Except.bind]
  | ok slots =>
    constructor
    · intro h
      exact absurd h (finish_ne_surplusOperand slots)
    · intro h
      cases h

/-- Nothing that follows mends an operand too many. -/
theorem Operand.check_append_of_surplusOperand {before : Operand}
    (h : Operand.check before = .error .surplusOperand) (after : Operand) :
    Operand.check (before ++ after) = .error .surplusOperand := by
  rw [check_eq_surplusOperand_iff] at h ⊢
  rw [Reading.run_append, h]
  rfl

end TextRules
