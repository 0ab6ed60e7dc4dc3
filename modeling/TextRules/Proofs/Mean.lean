import Mathlib.Algebra.Order.Ring.Abs
import TextRules.Proofs.Arithmetic

namespace TextRules

/-!
# The mean of two values

A mean is put together from the halves of its arguments and from what halving them leaves over.
Both are rounded towards zero, so the mean of an odd sum is rounded up or down according to the sign
of the odd argument.  Whichever way it is, this file shows that it is a mean.

* `Combinator.toInt_mean_cases` — the sum is halved exactly if it is even, and to one of the two
  integers next to the half if it is odd.  All that follows needs nothing else of the formula.
* `Combinator.min_le_toInt_mean`, `Combinator.toInt_mean_le_max` — the mean lies between its
  arguments.
* `Combinator.mean_comm`, `Combinator.mean_mono` — it does not depend on their order, and it grows
  with each of them.
* `Combinator.mean_halves_sum` — all of this, for any two values.
-/

namespace Combinator

open Value

section Mean

variable (a b : Value)

/-- Twice the mean is the sum, up to the one that an odd sum leaves over. -/
theorem toInt_mean_cases :
    2 * (apply .mean a b).toInt = a.toInt + b.toInt ∨
      (a.toInt + b.toInt) % 2 = 1 ∧
        (2 * (apply .mean a b).toInt = a.toInt + b.toInt - 1 ∨
          2 * (apply .mean a b).toInt = a.toInt + b.toInt + 1) := by
  have ha := halves_add_rest a.toInt
  have hb := halves_add_rest b.toInt
  have hrest := halves_add_rest (a.toInt.tmod 2 + b.toInt.tmod 2)
  have hmean := toInt_mean a b
  -- what the two halvings leave over is halved again, and only an odd rest stays behind
  omega

/-- The mean is not more than half of one away from the exact mean. -/
theorem abs_two_mul_toInt_mean_sub_le :
    |2 * (apply .mean a b).toInt - (a.toInt + b.toInt)| ≤ 1 := by
  have hcases := toInt_mean_cases a b
  rw [abs_le]
  omega

/-- An even sum is halved exactly. -/
theorem two_mul_toInt_mean_of_even (heven : 2 ∣ a.toInt + b.toInt) :
    2 * (apply .mean a b).toInt = a.toInt + b.toInt := by
  have hcases := toInt_mean_cases a b
  omega

theorem min_le_toInt_mean : Min.min a.toInt b.toInt ≤ (apply .mean a b).toInt := by
  have hcases := toInt_mean_cases a b
  omega

theorem toInt_mean_le_max : (apply .mean a b).toInt ≤ Max.max a.toInt b.toInt := by
  have hcases := toInt_mean_cases a b
  omega

/-- The halves and the rests are each added up, and the order of a sum does not matter. -/
theorem mean_comm : apply .mean a b = apply .mean b a := by
  rw [← Int64.toInt_inj, toInt_mean, toInt_mean, Int.add_comm (b.toInt.tdiv 2),
    Int.add_comm (b.toInt.tmod 2)]

variable {a b} {a' b' : Value}

/-- The mean grows with its arguments.  Sums that differ are not rounded past each other, since of
    two sums next to each other one is even. -/
theorem mean_mono (ha : a ≤ a') (hb : b ≤ b') : apply .mean a b ≤ apply .mean a' b' := by
  rw [Int64.le_iff_toInt_le] at ha hb ⊢
  rcases (Int.add_le_add ha hb).lt_or_eq with hlt | heq
  · have hcases := toInt_mean_cases a b
    have hcases' := toInt_mean_cases a' b'
    omega
  · -- the sums are the same only if the arguments are
    have hsame : a = a' := Int64.toInt_inj.mp (by omega)
    have hsame' : b = b' := Int64.toInt_inj.mp (by omega)
    rw [hsame, hsame']

/-- Arguments that are not negative have their mean rounded down. -/
theorem toInt_mean_of_nonneg (ha : 0 ≤ a.toInt) (hb : 0 ≤ b.toInt) :
    (apply .mean a b).toInt = (a.toInt + b.toInt) / 2 := by
  have hexact := toInt_apply .mean (Int.toNat_of_nonneg ha).symm (Int.toNat_of_nonneg hb).symm
  rw [hexact, exact]
  omega

end Mean

/-- **The mean halves the sum.** Whatever the two values are, no step on the way to their mean
    leaves the range.  The mean lies between them and is not more than half of one away from the
    exact mean, which it is if the sum is even.  It does not depend on the order of the two, it
    grows with each of them, and if neither is negative it is the exact mean rounded down. -/
theorem mean_halves_sum (a b : Value) :
    applyChecked? .mean a b = some (apply .mean a b) ∧
    Min.min a.toInt b.toInt ≤ (apply .mean a b).toInt ∧
    (apply .mean a b).toInt ≤ Max.max a.toInt b.toInt ∧
    |2 * (apply .mean a b).toInt - (a.toInt + b.toInt)| ≤ 1 ∧
    (2 ∣ a.toInt + b.toInt → 2 * (apply .mean a b).toInt = a.toInt + b.toInt) ∧
    apply .mean a b = apply .mean b a ∧
    (∀ a' b' : Value, a ≤ a' → b ≤ b' → apply .mean a b ≤ apply .mean a' b') ∧
    (0 ≤ a.toInt → 0 ≤ b.toInt → (apply .mean a b).toInt = (a.toInt + b.toInt) / 2) := by
  refine ⟨applyChecked?_eq .mean a b, min_le_toInt_mean a b, toInt_mean_le_max a b,
    abs_two_mul_toInt_mean_sub_le a b, two_mul_toInt_mean_of_even a b, mean_comm a b, ?_, ?_⟩
  · intro a' b' ha hb
    exact mean_mono ha hb
  · intro ha hb
    exact toInt_mean_of_nonneg ha hb

/-- Two odd arguments of different signs, and one argument at the end of the range. -/
theorem mean_halves_sum_of_odd_arguments :
    applyChecked? .mean (-3) 1 = some (-1) ∧
    (2 ∣ Int64.toInt (-3) + Int64.toInt 1 ∧
      2 * (apply .mean (-3) 1).toInt = Int64.toInt (-3) + Int64.toInt 1) ∧
    ((-3 : Value) ≤ 0 ∧ (1 : Value) ≤ Int64.maxValue ∧
      apply .mean (-3) 1 ≤ apply .mean 0 Int64.maxValue) ∧
    (0 ≤ Int64.toInt Int64.maxValue ∧ 0 ≤ Int64.toInt 4 ∧
      (apply .mean Int64.maxValue 4).toInt = 4611686018427387905) := by
  obtain ⟨hchecked, -, -, -, heven, -, hmono, -⟩ := mean_halves_sum (-3) 1
  obtain ⟨-, -, -, -, -, -, -, hfloor⟩ := mean_halves_sum Int64.maxValue 4
  have hdvd : 2 ∣ Int64.toInt (-3) + Int64.toInt 1 := by decide
  have hle : (-3 : Value) ≤ 0 := by decide
  have hle' : (1 : Value) ≤ Int64.maxValue := by decide
  have hmax : 0 ≤ Int64.toInt Int64.maxValue := by decide
  have hfour : 0 ≤ Int64.toInt 4 := by decide
  refine ⟨hchecked, ⟨hdvd, heven hdvd⟩, ⟨hle, hle', hmono 0 Int64.maxValue hle hle'⟩, hmax, hfour,
    ?_⟩
  rw [hfloor hmax hfour]
  decide

end Combinator

end TextRules
