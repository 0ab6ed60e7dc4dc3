import TextRules.Evaluation
import TextRules.Proofs.Reduction

namespace TextRules

/-!
# The value of an operand

Two accounts of the value of an operand, beside the reduction that computes it.

* On the tokens of an expression it is the recursive value of the expression
  (`Expr.reduction_is_recursion`): the first leaf that fails decides, and if none does, the
  combinators are applied from the leaves up.
* On any tokens it is known from the check and from the statistics that the subject lacks
  (`Operand.value_follows_check`).  The two reductions run in step until a statistic is missing;
  whether it is missed then depends on whether the run is still going.
-/

/-! ### The recursive result of an expression -/

section Result

variable {ε V : Type} {r : Reading ε V}

/-- The failure of a leaf, if it fails. -/
def Reading.fault? (r : Reading ε V) (l : Leaf) : Option ε :=
  match r.leaf l with
  | .error cause => some cause
  | .ok _ => none

/-- **The first leaf that fails decides.** An expression fails exactly if one of its leaves does,
    and then as the leftmost of these. -/
theorem Expr.result_eq_error_iff {e : Expr} {cause : ε} :
    e.result r = .error cause ↔ e.leaves.findSome? r.fault? = some cause := by
  induction e generalizing cause with
  | leaf l =>
    rw [leaves, List.findSome?_singleton, result_leaf, Reading.fault?]
    cases r.leaf l <;> simp
  | call f left right ihl ihr =>
    rw [leaves, List.findSome?_append, result_call]
    cases hl : left.result r with
    | error first =>
      rw [ihl.mp hl]
      simp [Except.bind]
    | ok a =>
      have hnone : left.leaves.findSome? r.fault? = none := by
        rw [Option.eq_none_iff_forall_ne_some]
        intro first hfirst
        rw [ihl.mpr hfirst] at hl
        cases hl
      rw [hnone, Option.none_or, ← ihr]
      cases right.result r <;> simp [Except.bind]

/-- Where all leaves have results, the combinators are applied to them from the leaves up. -/
theorem Expr.result_eq_fold {e : Expr} {leafResult : Leaf → V}
    (h : ∀ l ∈ e.leaves, r.leaf l = .ok (leafResult l)) :
    e.result r = .ok (e.fold r.combine leafResult) := by
  induction e with
  | leaf l => exact h l (List.mem_singleton_self l)
  | call f left right ihl ihr =>
    rw [result_call, ihl fun l hl => h l (List.mem_append_left _ hl),
      ihr fun l hl => h l (List.mem_append_right _ hl)]
    rfl

end Result

/-- The value of an expression by recursion: its leaves are valued from left to right, and each
    combinator is applied to the values of its two arguments. -/
def Expr.value (s : Subject) : Expr → Except EvalError Value
  | .leaf l => l.value s
  | .call f left right => do
    let leftValue ← left.value s
    let rightValue ← right.value s
    return f.apply leftValue rightValue

theorem Expr.value_eq_result (s : Subject) (e : Expr) : e.value s = e.result (valueReading s) := by
  induction e with
  | leaf l => rfl
  | call f left right ihl ihr =>
    rw [value, result, ihl, ihr]
    rfl

/-- **Reduction is recursion.** Whatever the results are, however leaves are read and combinators
    combine, the reduction of the tokens of an expression is its recursive result: the failure of
    the first leaf that fails, or else what the combinators make of the results of the leaves.  So
    the value of the tokens of an expression is its recursive value. -/
theorem Expr.reduction_is_recursion (e : Expr) :
    (∀ {ε V : Type} (r : Reading ε V),
      r.reduce e.tokens = e.result r ∧
      (∀ cause, r.reduce e.tokens = .error cause ↔ e.leaves.findSome? r.fault? = some cause) ∧
      ∀ leafResult : Leaf → V, (∀ l ∈ e.leaves, r.leaf l = .ok (leafResult l)) →
        r.reduce e.tokens = .ok (e.fold r.combine leafResult)) ∧
    ∀ s : Subject, Operand.value s e.tokens = e.value s := by
  constructor
  · intro ε V r
    rw [r.reduce_tokens]
    exact ⟨rfl, fun cause => result_eq_error_iff, fun leafResult => result_eq_fold⟩
  · intro s
    rw [Operand.value, Reading.reduce_tokens, value_eq_result]

/-- **An operand reads its leaves and nothing else.** Where each of them has the same value for two
    subjects, or fails for both in the same way, so does the operand. -/
theorem Operand.value_congr {s s' : Subject} {tokens : Operand}
    (h : ∀ l, Token.leaf l ∈ tokens → l.value s = l.value s') :
    Operand.value s tokens = Operand.value s' tokens := by
  have hrelated : Reading.Related Eq Eq (fun l => l.value s = l.value s') (valueReading s)
      (valueReading s') := {
    leaf := fun _ hl => agree_eq_iff.mpr hl
    combine := by
      rintro f a _ b _ rfl rfl
      rfl
    badShape := fun _ => rfl }
  exact agree_eq_iff.mp (hrelated.reduce h)

/-! ### Missing statistics -/

/-- Whether a token asks for a statistic that a subject does not have. -/
def Token.isMissing (s : Subject) : Token → Bool
  | .leaf .total => s.total.isNone
  | .leaf .average => s.average.isNone
  | .leaf (.number _) | .leaf (.count _) | .call _ => false

/-- A leaf fails only for want of its statistic. -/
theorem Leaf.value_eq_error_iff {s : Subject} {l : Leaf} {cause : EvalError} :
    l.value s = .error cause ↔ cause = .noNumbers ∧ (Token.leaf l).isMissing s = true := by
  cases l with
  | number v => simp [Leaf.value, Token.isMissing]
  | count needle => simp [Leaf.value, Token.isMissing]
  | total => cases h : s.total <;> simp [Leaf.value, Token.isMissing, available, h, eq_comm]
  | average => cases h : s.average <;> simp [Leaf.value, Token.isMissing, available, h, eq_comm]

/-- A missing statistic ends a run wherever the run is. -/
theorem step_of_isMissing {s : Subject} {t : Token} (h : t.isMissing s = true)
    (slots : List (Slot Combinator Value)) :
    (valueReading s).step slots t = .error .noNumbers := by
  cases t with
  | call f => cases h
  | leaf l =>
    have hvalue : l.value s = .error .noNumbers := Leaf.value_eq_error_iff.mpr ⟨rfl, h⟩
    rw [Reading.step_leaf]
    show (l.value s).bind _ = _
    rw [hvalue]
    rfl

/-! ### Value and shape in step -/

/-- An evaluation and a check agree when both succeed or both find the same fault in the shape. -/
abbrev SameShape {α β : Type} : Except EvalError α → Except ShapeError β → Prop :=
  Agree (fun cause fault => cause = .malformed fault) fun _ _ => True

/-- As long as nothing is missing, the value of an operand is found exactly where its shape is. -/
theorem valueReading_related_shapeReading (s : Subject) :
    Reading.Related (fun cause fault => cause = .malformed fault) (fun _ _ => True)
      (fun l => (Token.leaf l).isMissing s = false) (valueReading s) shapeReading where
  leaf l hl := by
    show SameShape (l.value s) (.ok ())
    cases hvalue : l.value s with
    | ok v => exact .ok trivial
    | error cause =>
      rw [(Leaf.value_eq_error_iff.mp hvalue).2] at hl
      cases hl
  combine _ _ _ _ _ _ _ := trivial
  badShape _ := rfl

section InStep

variable {s : Subject} {before after tokens : Operand} {t : Token}

theorem sameShape_of_forall_not_isMissing (h : ∀ u ∈ tokens, u.isMissing s = false) :
    SameShape (Operand.value s tokens) (Operand.check tokens) :=
  (valueReading_related_shapeReading s).reduce fun l hl => h (.leaf l) hl

/-- An operand too many is found by the evaluation as well, and neither reads on. -/
theorem sameShape_of_surplusOperand (hbefore : ∀ u ∈ before, u.isMissing s = false)
    (hsurplus : Operand.check before = .error .surplusOperand) :
    SameShape (Operand.value s (before ++ after)) (Operand.check (before ++ after)) := by
  have hrun := (valueReading_related_shapeReading s).run (fun l hl => hbefore (.leaf l) hl) .nil
  rw [(Operand.check_eq_surplusOperand_iff before).mp hsurplus] at hrun
  obtain ⟨cause, hvalue, rfl⟩ := hrun.of_error_right
  rw [Operand.check_append_of_surplusOperand hsurplus, Operand.value, Reading.reduce_eq_bind,
    Reading.run_append, hvalue]
  exact .error rfl

/-- Where no operand is too many yet, a missing statistic is the failure of the whole. -/
theorem value_eq_noNumbers (hbefore : ∀ u ∈ before, u.isMissing s = false)
    (hmissing : t.isMissing s = true) (h : Operand.check before ≠ .error .surplusOperand) :
    Operand.value s (before ++ t :: after) = .error .noNumbers := by
  rw [ne_eq, Operand.check_eq_surplusOperand_iff] at h
  have hrun := (valueReading_related_shapeReading s).run (fun l hl => hbefore (.leaf l) hl) .nil
  cases hshape : shapeReading.run [] before with
  | error fault =>
    obtain rfl := eq_surplusOperand_of_run hshape
    exact absurd hshape h
  | ok shapes =>
    rw [hshape] at hrun
    obtain ⟨slots, hslots, -⟩ := hrun.of_ok_right
    rw [Operand.value, Reading.reduce_eq_bind, Reading.run_append, hslots]
    show ((valueReading s).run slots (t :: after)).bind _ = _
    rw [Reading.run_cons, step_of_isMissing hmissing]
    rfl

end InStep

/-- A list at the first place where a test succeeds. -/
theorem append_of_findIdx?_eq_some {α : Type} {p : α → Bool} {xs : List α} {i : Nat}
    (h : xs.findIdx? p = some i) :
    ∃ x after, xs = xs.take i ++ x :: after ∧ p x = true ∧ ∀ u ∈ xs.take i, p u = false := by
  obtain ⟨hi, hp, hbefore⟩ := List.findIdx?_eq_some_iff_getElem.mp h
  refine ⟨xs[i], xs.drop (i + 1), ?_, hp, ?_⟩
  · rw [← List.drop_eq_getElem_cons hi, List.take_append_drop]
  · intro u hu
    obtain ⟨j, hj, rfl⟩ := List.mem_take_iff_getElem.mp hu
    exact Bool.eq_false_iff.mpr (hbefore j (by omega))

/-- **The value follows the check.** Take the first token that asks for a statistic which the
    subject lacks.  If the tokens before it have no operand too many, the evaluation fails for want
    of numbers.  In every other case it succeeds exactly if the check does, and fails over the
    shape exactly as the check does. -/
theorem Operand.value_follows_check (s : Subject) (tokens : Operand) :
    (∀ i, tokens.findIdx? (Token.isMissing s) = some i →
      Operand.check (tokens.take i) ≠ .error .surplusOperand →
        Operand.value s tokens = .error .noNumbers) ∧
    ((∀ i, tokens.findIdx? (Token.isMissing s) = some i →
        Operand.check (tokens.take i) = .error .surplusOperand) →
      ((∃ v, Operand.value s tokens = .ok v) ↔ Operand.check tokens = .ok ()) ∧
      ∀ fault, Operand.value s tokens = .error (.malformed fault) ↔
        Operand.check tokens = .error fault) := by
  constructor
  · intro i hi hcheck
    obtain ⟨t, after, hsplit, hmissing, hbefore⟩ := append_of_findIdx?_eq_some hi
    rw [hsplit]
    exact value_eq_noNumbers hbefore hmissing hcheck
  · intro h
    have hsame : SameShape (Operand.value s tokens) (Operand.check tokens) := by
      cases hfirst : tokens.findIdx? (Token.isMissing s) with
      | none => exact sameShape_of_forall_not_isMissing (List.findIdx?_eq_none_iff.mp hfirst)
      | some i =>
        obtain ⟨t, after, hsplit, -, hbefore⟩ := append_of_findIdx?_eq_some hfirst
        rw [hsplit]
        exact sameShape_of_surplusOperand hbefore (h i hfirst)
    revert hsame
    generalize Operand.value s tokens = value
    generalize Operand.check tokens = check
    rintro (_ | rfl)
    · simp
    · simp

/- The leaf is read before it is put on the stack, so a missing statistic that is also one operand
   too many is told as missing.  One place further on the surplus operand comes first. -/
example : Operand.value ⟨"", some 1, none⟩ [.leaf .total, .leaf .average] = .error .noNumbers ∧
    Operand.value ⟨"", some 1, none⟩ [.leaf .total, .leaf .total, .leaf .average] =
      .error (.malformed .surplusOperand) := ⟨rfl, rfl⟩

end TextRules
