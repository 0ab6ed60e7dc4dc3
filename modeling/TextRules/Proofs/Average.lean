import Mathlib.Algebra.Order.BigOperators.Group.List
import Mathlib.Algebra.Order.Ring.Nat
import TextRules.Proofs.Digits
import TextRules.Proofs.Numbers

namespace TextRules

/-!
# The average of the numbers in a text

The average of the numbers in a text is their sum divided by how many they are, and rounded down.
The statistics have the sum only as far as it is in range: a total that was held back at the largest
value is divided all the same.  So the average that they give can be too small, even smaller than
every number in the text.

* `held_div_eq_iff` — when holding a sum back does not show in the quotient.
* `NumberStats.average_of_held_total` — what the average is, and when it is the exact one.
* `NumberStats.average_below_every_number` — a text where it is not.
-/

/-- The average of the numbers in a text, rounded down.  The average itself is held back at the
    largest value, the sum on the way to it is not. -/
def exactAverage (text : String) : Nat :=
  min Value.limit ((numbersIn text).sum / (numbersIn text).length)

/-! ### Dividing a sum that was held back -/

section Held

variable {limit sum count : Nat}

theorem held_div_le (limit sum count : Nat) :
    min limit sum / count ≤ min limit (sum / count) := by
  refine Nat.le_min.mpr ⟨?_, Nat.div_le_div_right (Nat.min_le_right limit sum)⟩
  exact (Nat.div_le_self _ _).trans (Nat.min_le_left limit sum)

/-- Holding the sum back before the division is the same as holding the quotient back if nothing is
    divided, or if the sum does not go on to the next quotient behind the limit. -/
theorem held_div_eq_iff (hlimit : 0 < limit) (hcount : 0 < count) :
    min limit sum / count = min limit (sum / count) ↔
      count = 1 ∨ sum < count * (limit / count + 1) := by
  have hnext : limit < count * (limit / count + 1) := Nat.lt_mul_div_succ limit hcount
  have hquotient : sum / count ≤ limit / count ↔ sum < count * (limit / count + 1) := by
    rw [← Nat.lt_succ_iff, Nat.div_lt_iff_lt_mul hcount, Nat.mul_comm]
  by_cases hle : sum ≤ limit
  · -- nothing is held back on either side
    have hdiv : sum / count ≤ limit := (Nat.div_le_self sum count).trans hle
    rw [Nat.min_eq_right hle, Nat.min_eq_right hdiv]
    have hsum : sum < count * (limit / count + 1) := by omega
    simp [hsum]
  · rw [Nat.min_eq_left (by omega)]
    by_cases hone : count = 1
    · subst hone
      simp only [Nat.div_one, true_or, iff_true]
      omega
    · -- the quotient of the limit is below the limit, so the other quotient is not held back there
      have hbelow : limit / count < limit := Nat.div_lt_self hlimit (by omega)
      have hmono : limit / count ≤ sum / count := Nat.div_le_div_right (by omega)
      rw [← hquotient]
      omega

end Held

/-- The average of some numbers is not below the smallest of them, and not above the largest. -/
theorem exists_le_average {numbers : List Nat} (hne : numbers ≠ []) :
    (∃ number ∈ numbers, number ≤ numbers.sum / numbers.length) ∧
      ∃ number ∈ numbers, numbers.sum / numbers.length ≤ number := by
  have hlength : 0 < numbers.length := List.length_pos_iff.mpr hne
  have hconst : ∀ n : Nat, (numbers.map fun _ => n).sum = numbers.length * n := by
    intro n
    rw [List.map_const', List.sum_replicate_nat]
  constructor
  · -- the sum does not reach the next quotient, so some number does not
    have hnext : (numbers.map fun number => number).sum <
        (numbers.map fun _ => numbers.sum / numbers.length + 1).sum := by
      rw [List.map_id', hconst]
      exact Nat.lt_mul_div_succ numbers.sum hlength
    obtain ⟨number, hnumber, hlt⟩ := List.exists_lt_of_sum_lt _ _ hnext
    exact ⟨number, hnumber, Nat.le_of_lt_succ hlt⟩
  · have hreached : (numbers.map fun _ => numbers.sum / numbers.length).sum ≤
        (numbers.map fun number => number).sum := by
      rw [List.map_id', hconst]
      exact Nat.mul_div_le numbers.sum numbers.length
    exact List.exists_le_of_sum_le hne _ _ hreached

/-! ### The average of a text -/

namespace NumberStats

variable {text : String}

/-- A text with a digit has numbers. -/
theorem numbersIn_ne_nil (h : hasDigit text = true) : numbersIn text ≠ [] := by
  obtain ⟨average, haverage⟩ := exists_average?_ofText h
  intro hnil
  rw [average?, count_ofText, hnil] at haverage
  cases haverage

/-- **The average divides a sum that was held back.** A text has an average exactly if it has a
    digit.  The average is the sum of its numbers, held back at the largest value, divided by how
    many they are and rounded down.  It is never above the exact average, and it is the exact one
    for a single number, and wherever the sum does not go on to the next quotient behind the
    largest value.  If the sum is in range, the average lies between the smallest of the numbers
    and the largest. -/
theorem average_of_held_total (text : String) :
    ((ofText text).average? = .none ↔ hasDigit text = false) ∧
    (hasDigit text = true → ∃ average, (ofText text).average? = some average ∧
      (∀ policy, (Subject.ofText policy text).average = some average) ∧
      average.toInt = (min Value.limit (numbersIn text).sum / (numbersIn text).length : Nat) ∧
      average.toInt ≤ exactAverage text ∧
      (average.toInt = exactAverage text ↔ (numbersIn text).length = 1 ∨
        (numbersIn text).sum <
          (numbersIn text).length * (Value.limit / (numbersIn text).length + 1)) ∧
      ((numbersIn text).sum ≤ Value.limit →
        (∃ number ∈ numbersIn text, number ≤ average.toInt) ∧
          ∃ number ∈ numbersIn text, average.toInt ≤ number)) := by
  refine ⟨average?_ofText_eq_none_iff text, fun hdigit => ?_⟩
  obtain ⟨average, haverage⟩ := exists_average?_ofText hdigit
  have hne := numbersIn_ne_nil hdigit
  have hvalue := toInt_average?_ofText haverage
  refine ⟨average, haverage, fun policy => ?_, hvalue, ?_, ?_, ?_⟩
  · simp [Subject.ofText, haverage]
  · rw [hvalue, exactAverage]
    exact Int.ofNat_le.mpr (held_div_le _ _ _)
  · rw [hvalue, exactAverage, Int.ofNat_inj]
    exact held_div_eq_iff (by decide) (List.length_pos_iff.mpr hne)
  · intro hsum
    rw [hvalue, Nat.min_eq_right hsum]
    obtain ⟨⟨low, hlow, hle⟩, ⟨high, hhigh, hge⟩⟩ := exists_le_average hne
    exact ⟨⟨low, hlow, Int.ofNat_le.mpr hle⟩, ⟨high, hhigh, Int.ofNat_le.mpr hge⟩⟩

/-- The sum of three numbers is held back, and their average is exact all the same. -/
theorem average_of_held_total_not_seen :
    hasDigit "9223372036854775807 1 0" = true ∧
    Value.limit < (numbersIn "9223372036854775807 1 0").sum ∧
    ∃ average, (ofText "9223372036854775807 1 0").average? = some average ∧
      average.toInt = exactAverage "9223372036854775807 1 0" := by
  have hdigit : hasDigit "9223372036854775807 1 0" = true := by decide +kernel
  obtain ⟨average, haverage, -, -, -, hexact, -⟩ :=
    (average_of_held_total "9223372036854775807 1 0").2 hdigit
  exact ⟨hdigit, by decide +kernel, average, haverage, hexact.mpr (.inr (by decide +kernel))⟩

/-- **An average below every number.** Of two numbers that are both the largest value the average is
    not this value, though it is in range, but about half of it. -/
theorem average_below_every_number :
    ∃ average, (ofText "9223372036854775807 9223372036854775807").average? = some average ∧
      average.toInt ≠ exactAverage "9223372036854775807 9223372036854775807" ∧
      ∀ number ∈ numbersIn "9223372036854775807 9223372036854775807",
        number ≤ Value.limit ∧ average.toInt < number := by
  refine ⟨4611686018427387903, by decide +kernel, by decide +kernel, ?_⟩
  decide +kernel

end NumberStats

end TextRules
