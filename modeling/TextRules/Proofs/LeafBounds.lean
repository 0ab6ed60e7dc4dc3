import Mathlib.Algebra.Order.BigOperators.Group.List
import TextRules.Proofs.CombinatorLaws
import TextRules.Proofs.Replacement

namespace TextRules

/-!
# Bounds from the leaves

What the values of its leaves say about the value of an operand.  The subjects here have both
statistics, so that every leaf has a value, and values may be negative.

* `Subject.Complete.exists_value` — a well-formed operand then has a value.
* `Operand.value_related_of_le` — where the leaves have at most the values that they have for
  another subject, so do any tokens, up to the first fault.
* `Expr.exists_bounds` — without sums, the value of an expression lies between values of its leaves.
* `Expr.toInt_value_of_sums` — with nothing but sums of values that are not negative, it is their
  exact sum, held back at the largest value.  However the sums are nested, it is held back once.
* `Operand.value_grows_with_leaves`, `Operand.value_bounded_by_leaves` — the same for operands.
-/

open Value

/-! ### Subjects with both statistics -/

/-- A subject that has a sum and an average. -/
structure Subject.Complete (s : Subject) : Prop where
  total : s.total.isSome = true
  average : s.average.isSome = true

namespace Subject.Complete

variable {s : Subject}

/-- Nothing is missing. -/
theorem isMissing_eq_false (h : s.Complete) (t : Token) : t.isMissing s = false := by
  have htotal := h.total
  have haverage := h.average
  cases t with
  | call f => rfl
  | leaf l => cases l <;> simp_all [Token.isMissing]

theorem exists_leaf_value (h : s.Complete) (l : Leaf) : ∃ v, l.value s = .ok v := by
  cases hvalue : l.value s with
  | ok v => exact ⟨v, rfl⟩
  | error cause =>
    have hmissing := (Leaf.value_eq_error_iff.mp hvalue).2
    rw [h.isMissing_eq_false] at hmissing
    cases hmissing

/-- A well-formed operand has a value. -/
theorem exists_value (h : s.Complete) {tokens : Operand} (hcheck : Operand.check tokens = .ok ()) :
    ∃ v, Operand.value s tokens = .ok v := by
  have hsame := sameShape_of_forall_not_isMissing fun t (_ : t ∈ tokens) => h.isMissing_eq_false t
  rw [hcheck] at hsame
  obtain ⟨v, hv, -⟩ := hsame.of_ok_right
  exact ⟨v, hv⟩

end Subject.Complete

/-! ### Greater leaves -/

section Monotone

variable {s s' : Subject} {tokens : Operand}

/-- Results that are not greater are combined into results that are not greater. -/
theorem valueReading_related_of_le (s s' : Subject) :
    Reading.Related Eq (· ≤ ·) (fun l => Agree Eq (· ≤ ·) (l.value s) (l.value s'))
      (valueReading s) (valueReading s') where
  leaf _ hl := hl
  combine f _ _ _ _ ha hb := f.apply_mono ha hb
  badShape _ := rfl

/-- Where the leaves among some tokens have at most the values that they have for another subject,
    so do the tokens.  If they have no value, both evaluations fail for the same cause. -/
theorem Operand.value_related_of_le
    (h : ∀ l, .leaf l ∈ tokens → Agree Eq (· ≤ ·) (l.value s) (l.value s')) :
    Agree Eq (· ≤ ·) (Operand.value s tokens) (Operand.value s' tokens) :=
  (valueReading_related_of_le s s').reduce h

/-- **A value grows with the leaves.** Take a well-formed operand and two subjects that have both
    statistics.  If no leaf of the operand has a greater value for the first subject than for the
    second, neither has the operand, and it has a value for both. -/
theorem Operand.value_grows_with_leaves (hs : s.Complete) (hs' : s'.Complete)
    (hcheck : Operand.check tokens = .ok ())
    (hleaf : ∀ l, .leaf l ∈ tokens → ∀ v v', l.value s = .ok v → l.value s' = .ok v' → v ≤ v') :
    ∃ v v', Operand.value s tokens = .ok v ∧ Operand.value s' tokens = .ok v' ∧ v ≤ v' := by
  have hagree : Agree Eq (· ≤ ·) (Operand.value s tokens) (Operand.value s' tokens) := by
    refine value_related_of_le fun l hl => ?_
    obtain ⟨v, hv⟩ := hs.exists_leaf_value l
    obtain ⟨v', hv'⟩ := hs'.exists_leaf_value l
    rw [hv, hv']
    exact .ok (hleaf l hl v v' hv hv')
  obtain ⟨v, hv⟩ := hs.exists_value hcheck
  rw [hv] at hagree
  obtain ⟨v', hv', hle⟩ := hagree.of_ok_left
  exact ⟨v, v', hv, hv', hle⟩

/-- Values of both signs: the mean of -6 and -2 against that of -4 and 3. -/
theorem Operand.value_grows_with_leaves_below_zero :
    (∃ v v', Operand.value ⟨"xa", some (-7), some (-2)⟩ [.call .mean, .call .sum, .leaf .total,
        .leaf (.count "a"), .leaf .average] = .ok v ∧
      Operand.value ⟨"aa", some (-6), some 3⟩ [.call .mean, .call .sum, .leaf .total,
        .leaf (.count "a"), .leaf .average] = .ok v' ∧ v ≤ v') ∧
    Operand.value ⟨"aa", some (-6), some 3⟩ [.call .mean, .call .sum, .leaf .total,
      .leaf (.count "a"), .leaf .average] = .ok (-1) := by
  refine ⟨value_grows_with_leaves ⟨rfl, rfl⟩ ⟨rfl, rfl⟩ (by rfl) ?_, by decide +kernel⟩
  intro l hl v v' hv hv'
  simp only [List.mem_cons, Token.leaf.injEq, reduceCtorEq, List.not_mem_nil, or_false,
    false_or] at hl
  rcases hl with rfl | rfl | rfl
  all_goals
    obtain rfl := Except.ok.inj hv
    obtain rfl := Except.ok.inj hv'
    decide +kernel

end Monotone

/-! ### The values of the leaves -/

/-- The value of a token that has one by itself, as an integer. -/
def Token.integer? (s : Subject) : Token → Option Int
  | .call _ => none
  | .leaf l => (l.value s).toOption.map Int64.toInt

/-- The values of the leaves among some tokens, in their order. -/
def Operand.leafIntegers (s : Subject) (tokens : Operand) : List Int :=
  tokens.filterMap (Token.integer? s)

section Leaves

variable {s : Subject} {f : Combinator} {left right : Expr} {v : Value}

theorem Operand.leafIntegers_leaf {l : Leaf} (h : l.value s = .ok v) :
    leafIntegers s (Expr.leaf l).tokens = [v.toInt] := by
  simp [leafIntegers, Expr.tokens, Token.integer?, h, Except.toOption]

theorem Operand.leafIntegers_call :
    leafIntegers s (Expr.call f left right).tokens =
      leafIntegers s left.tokens ++ leafIntegers s right.tokens := by
  rw [leafIntegers, Expr.tokens, List.filterMap_cons_none rfl, List.filterMap_append]
  rfl

/-- The value of a call is made from the values of its arguments. -/
theorem Expr.exists_of_value_call (h : (Expr.call f left right).value s = .ok v) :
    ∃ a b, left.value s = .ok a ∧ right.value s = .ok b ∧ f.apply a b = v := by
  obtain ⟨a, ha, hrest⟩ := bind_eq_ok_iff.mp h
  obtain ⟨b, hb, hv⟩ := bind_eq_ok_iff.mp hrest
  exact ⟨a, b, ha, hb, Except.ok.inj hv⟩

/-- What has a value is an expression, and the value is the one of the expression. -/
theorem Operand.exists_expr_of_value {tokens : Operand} (h : Operand.value s tokens = .ok v) :
    ∃ e : Expr, e.tokens = tokens ∧ e.value s = .ok v := by
  obtain ⟨e, he, hresult⟩ := Reading.reduce_eq_ok_iff.mp h
  exact ⟨e, he, (e.value_eq_result s).trans hresult⟩

end Leaves

/-! ### Values by the shape of an expression -/

section Shape

variable {s : Subject} {e : Expr} {v : Value}

/-- Without sums, the value of an expression is not below all its leaves and not above all of
    them. -/
theorem Expr.exists_bounds (hsum : .call .sum ∉ e.tokens) (hv : e.value s = .ok v) :
    (∃ a ∈ Operand.leafIntegers s e.tokens, a ≤ v.toInt) ∧
      ∃ b ∈ Operand.leafIntegers s e.tokens, v.toInt ≤ b := by
  induction e generalizing v with
  | leaf l =>
    rw [Operand.leafIntegers_leaf hv]
    exact ⟨⟨v.toInt, List.mem_singleton_self _, Int.le_refl _⟩,
      v.toInt, List.mem_singleton_self _, Int.le_refl _⟩
  | call f left right ihl ihr =>
    simp only [tokens, List.mem_cons, Token.call.injEq, List.mem_append, not_or] at hsum
    obtain ⟨hf, hleft, hright⟩ := hsum
    obtain ⟨a, b, ha, hb, rfl⟩ := exists_of_value_call hv
    obtain ⟨⟨low, hlow, hlow_le⟩, high, hhigh, hle_high⟩ := ihl hleft ha
    obtain ⟨⟨low', hlow', hlow'_le⟩, high', hhigh', hle_high'⟩ := ihr hright hb
    -- whichever argument the value is not below, a leaf of that argument is not above it
    obtain ⟨hbelow, habove⟩ := Combinator.apply_between (Ne.symm hf) a b
    rw [Operand.leafIntegers_call]
    constructor
    · rcases hbelow with h | h
      · exact ⟨low, List.mem_append_left _ hlow, Int.le_trans hlow_le h⟩
      · exact ⟨low', List.mem_append_right _ hlow', Int.le_trans hlow'_le h⟩
    · rcases habove with h | h
      · exact ⟨high, List.mem_append_left _ hhigh, Int.le_trans h hle_high⟩
      · exact ⟨high', List.mem_append_right _ hhigh', Int.le_trans h hle_high'⟩

/-- **Nested sums are held back once.** With sums only, and no leaf below zero, the value of an
    expression is the exact sum of its leaves, held back at the largest value. -/
theorem Expr.toInt_value_of_sums (hsums : ∀ f, .call f ∈ e.tokens → f = .sum)
    (hnonneg : ∀ a ∈ Operand.leafIntegers s e.tokens, 0 ≤ a) (hv : e.value s = .ok v) :
    v.toInt = min largest (Operand.leafIntegers s e.tokens).sum := by
  induction e generalizing v with
  | leaf l =>
    have hle := toInt_le_largest v
    rw [Operand.leafIntegers_leaf hv, List.sum_singleton]
    omega
  | call f left right ihl ihr =>
    obtain rfl : f = .sum := hsums f List.mem_cons_self
    obtain ⟨a, b, ha, hb, rfl⟩ := exists_of_value_call hv
    rw [Operand.leafIntegers_call] at hnonneg ⊢
    obtain ⟨hnonneg_left, hnonneg_right⟩ := List.forall_mem_append.mp hnonneg
    have hleft := ihl (fun f hf => hsums f (by simp [tokens, hf])) hnonneg_left ha
    have hright := ihr (fun f hf => hsums f (by simp [tokens, hf])) hnonneg_right hb
    -- an argument that is held back is already all that the whole may be
    have hsum_left := List.sum_nonneg hnonneg_left
    have hsum_right := List.sum_nonneg hnonneg_right
    rw [Combinator.toInt_sum, hleft, hright, List.sum_append]
    simp only [smallest, largest]
    omega

end Shape

/-! ### Values by the shape of an operand -/

namespace Operand

variable {s : Subject} {tokens : Operand} {v : Value}

/-- Without sums, a value lies between the smallest and the largest value of the leaves. -/
theorem exists_least_greatest (hsum : .call .sum ∉ tokens)
    (hv : Operand.value s tokens = .ok v) :
    ∃ least greatest, (leafIntegers s tokens).min? = some least ∧
      (leafIntegers s tokens).max? = some greatest ∧ least ≤ v.toInt ∧ v.toInt ≤ greatest := by
  obtain ⟨e, rfl, hvalue⟩ := exists_expr_of_value hv
  obtain ⟨⟨a, ha, hle⟩, b, hb, hle'⟩ := Expr.exists_bounds hsum hvalue
  obtain ⟨least, hleast⟩ := Option.isSome_iff_exists.mp (List.isSome_min?_of_mem ha)
  obtain ⟨greatest, hgreatest⟩ := Option.isSome_iff_exists.mp (List.isSome_max?_of_mem hb)
  refine ⟨least, greatest, hleast, hgreatest, ?_, ?_⟩
  · exact Int.le_trans ((List.min?_eq_some_iff.mp hleast).2 a ha) hle
  · exact Int.le_trans hle' ((List.max?_eq_some_iff.mp hgreatest).2 b hb)

/-- With sums only, and no leaf below zero, a value is the sum of the leaves, held back once. -/
theorem toInt_value_of_sums (hsums : ∀ f, .call f ∈ tokens → f = .sum)
    (hnonneg : ∀ a ∈ leafIntegers s tokens, 0 ≤ a) (hv : Operand.value s tokens = .ok v) :
    v.toInt = min largest (leafIntegers s tokens).sum := by
  obtain ⟨e, rfl, hvalue⟩ := exists_expr_of_value hv
  exact Expr.toInt_value_of_sums hsums hnonneg hvalue

/-- **Bounds by shape.** A well-formed operand has a value for a subject that has both statistics.
    If the operand has no sum in it, this value lies between the smallest and the largest value of
    its leaves.  If all its functions are sums and no leaf is below zero, it is the exact sum of the
    leaves, held back at the largest value; so any other operand of sums with the same leaves has
    the same value, in whatever order they come and however the sums are nested. -/
theorem value_bounded_by_leaves (hs : s.Complete) (hcheck : Operand.check tokens = .ok ()) :
    ∃ v, Operand.value s tokens = .ok v ∧
      (.call .sum ∉ tokens → ∃ least greatest, (leafIntegers s tokens).min? = some least ∧
        (leafIntegers s tokens).max? = some greatest ∧ least ≤ v.toInt ∧ v.toInt ≤ greatest) ∧
      ((∀ f, .call f ∈ tokens → f = .sum) → (∀ a ∈ leafIntegers s tokens, 0 ≤ a) →
        v.toInt = min largest (leafIntegers s tokens).sum ∧
        ∀ other, Operand.check other = .ok () → (∀ f, .call f ∈ other → f = .sum) →
          (leafIntegers s other).Perm (leafIntegers s tokens) →
          Operand.value s other = .ok v) := by
  obtain ⟨v, hv⟩ := hs.exists_value hcheck
  refine ⟨v, hv, fun hsum => exists_least_greatest hsum hv, fun hsums hnonneg => ?_⟩
  have hvalue := toInt_value_of_sums hsums hnonneg hv
  refine ⟨hvalue, fun other hother hsums' hperm => ?_⟩
  -- both values are told by the same sum, which knows nothing of order and nesting
  obtain ⟨v', hv'⟩ := hs.exists_value hother
  have hvalue' := toInt_value_of_sums hsums' (fun a ha => hnonneg a (hperm.mem_iff.mp ha)) hv'
  rw [hperm.sum_eq, ← hvalue, Int64.toInt_inj] at hvalue'
  rw [hv', hvalue']

/-- A mean that is rounded up to zero, and two ways to nest a sum that leaves the range. -/
theorem value_bounded_by_leaves_past_limit :
    (∃ v, Operand.value ⟨"abab", some 40, some 5⟩ [.call .mean, .leaf (.number (-3)), .call .min,
        .leaf .total, .leaf (.count "ab")] = .ok v ∧ -3 ≤ v.toInt ∧ v.toInt ≤ 40) ∧
    ∃ v, Operand.value ⟨"abab", some 40, some 5⟩ [.call .sum, .leaf (.number Int64.maxValue),
        .call .sum, .leaf .total, .leaf (.count "ab")] = .ok v ∧
      Operand.value ⟨"abab", some 40, some 5⟩ [.call .sum, .call .sum, .leaf (.count "ab"),
        .leaf (.number Int64.maxValue), .leaf .total] = .ok v ∧ v.toInt = largest := by
  constructor
  · obtain ⟨v, hv, hbetween, -⟩ := @value_bounded_by_leaves ⟨"abab", some 40, some 5⟩
      [.call .mean, .leaf (.number (-3)), .call .min, .leaf .total, .leaf (.count "ab")]
      ⟨rfl, rfl⟩ (by rfl)
    obtain ⟨least, greatest, hleast, hgreatest, hle, hle'⟩ := hbetween (by decide)
    have hleaves : leafIntegers ⟨"abab", some 40, some 5⟩ [.call .mean, .leaf (.number (-3)),
        .call .min, .leaf .total, .leaf (.count "ab")] = [-3, 40, 2] := by decide +kernel
    rw [hleaves] at hleast hgreatest
    obtain rfl : -3 = least := Option.some.inj hleast
    obtain rfl : 40 = greatest := Option.some.inj hgreatest
    exact ⟨v, hv, hle, hle'⟩
  · obtain ⟨v, hv, -, hsum⟩ := @value_bounded_by_leaves ⟨"abab", some 40, some 5⟩
      [.call .sum, .leaf (.number Int64.maxValue), .call .sum, .leaf .total, .leaf (.count "ab")]
      ⟨rfl, rfl⟩ (by rfl)
    obtain ⟨hvalue, hnested⟩ := hsum (by simp) (by decide +kernel)
    refine ⟨v, hv, hnested _ (by rfl) (by simp) (by decide +kernel), ?_⟩
    rw [hvalue]
    decide +kernel

end Operand

end TextRules
