import TextRules.Proofs.Mean

namespace TextRules

/-!
# Laws of the combinators

What all combinators have in common, over the whole range of values.

* `Combinator.apply_comm` — the order of the arguments does not matter.
* `Combinator.apply_mono` — a combinator grows with each of its arguments.
* `Combinator.apply_between` — a combinator other than the sum stays between its arguments.

For the mean they are laws of its rounding, and for the sum of its being held inside the range.
-/

namespace Combinator

open Value

/-! ### Combinators as functions of integers -/

theorem toInt_max (a b : Value) : (apply .max a b).toInt = Max.max a.toInt b.toInt := by
  simp only [apply, Int64.le_iff_toInt_le]
  split <;> omega

theorem toInt_min (a b : Value) : (apply .min a b).toInt = Min.min a.toInt b.toInt := by
  simp only [apply, Int64.le_iff_toInt_le]
  split <;> omega

theorem toInt_sum (a b : Value) :
    (apply .sum a b).toInt = Max.max smallest (Min.min largest (a.toInt + b.toInt)) :=
  toInt_addClamped a b

/-! ### Laws -/

/-- **The order of two arguments does not matter.** -/
theorem apply_comm (f : Combinator) (a b : Value) : f.apply a b = f.apply b a := by
  cases f with
  | max => rw [← Int64.toInt_inj, toInt_max, toInt_max, Int.max_comm]
  | min => rw [← Int64.toInt_inj, toInt_min, toInt_min, Int.min_comm]
  | sum => rw [← Int64.toInt_inj, toInt_sum, toInt_sum, Int.add_comm]
  | mean => exact mean_comm a b

/-- **A combinator grows with its arguments.** -/
theorem apply_mono (f : Combinator) {a a' b b' : Value} (ha : a ≤ a') (hb : b ≤ b') :
    f.apply a b ≤ f.apply a' b' := by
  have ha' := Int64.le_iff_toInt_le.mp ha
  have hb' := Int64.le_iff_toInt_le.mp hb
  cases f with
  | max =>
    rw [Int64.le_iff_toInt_le, toInt_max, toInt_max]
    omega
  | min =>
    rw [Int64.le_iff_toInt_le, toInt_min, toInt_min]
    omega
  | sum =>
    -- holding a sum inside the range keeps the order
    rw [Int64.le_iff_toInt_le, toInt_sum, toInt_sum]
    omega
  | mean => exact mean_mono ha hb

/-- **Only a sum can leave its arguments behind.** The value of any other combinator is not below
    both arguments, and not above both. -/
theorem apply_between {f : Combinator} (hf : f ≠ .sum) (a b : Value) :
    (a.toInt ≤ (f.apply a b).toInt ∨ b.toInt ≤ (f.apply a b).toInt) ∧
      ((f.apply a b).toInt ≤ a.toInt ∨ (f.apply a b).toInt ≤ b.toInt) := by
  cases f with
  | max =>
    rw [toInt_max]
    omega
  | min =>
    rw [toInt_min]
    omega
  | sum => exact absurd rfl hf
  | mean =>
    have hlow := min_le_toInt_mean a b
    have hhigh := toInt_mean_le_max a b
    omega

end Combinator

end TextRules
