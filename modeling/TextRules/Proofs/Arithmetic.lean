import TextRules.Combinator

namespace TextRules

/-!
# Exact arithmetic

The combinators work on 64-bit values, and this file compares them with arithmetic that knows no
range.

* `Combinator.applyChecked?` takes the steps of a combinator with integers and gives up at the first
  result that is out of range.  It never gives up, whatever the arguments are
  (`Combinator.applyChecked?_eq`), so no step of a combinator wraps around.
* `Combinator.exact` is what a combinator means for natural numbers: the greater, the smaller, the
  sum held back at the largest value, and the mean rounded down.  On values that are not negative
  the combinators compute this (`Combinator.toInt_apply`).
-/

/-! ### Checked steps -/

namespace Value

/-- The largest value, as a natural number. -/
def limit : Nat := 9223372036854775807

theorem largest_eq : largest = (limit : Int) := rfl

/-- The value that an integer is, if it is in range. -/
def ofInt? (n : Int) : Option Value :=
  if smallest ≤ n ∧ n ≤ largest then some (clamp n) else none

/-- The sum of two values, if it is in range. -/
def addChecked? (a b : Value) : Option Value := ofInt? (a.toInt + b.toInt)

/-- The quotient of two values, rounded towards zero, if it is in range. -/
def divChecked? (a b : Value) : Option Value := ofInt? (a.toInt.tdiv b.toInt)

/-- What a division of two values leaves over, if it is in range. -/
def modChecked? (a b : Value) : Option Value := ofInt? (a.toInt.tmod b.toInt)

/-- An integer in range that a value is found to be is that value. -/
theorem ofInt?_eq_some {n : Int} {v : Value} (h : v.toInt = n) : ofInt? n = some v := by
  subst h
  have hlow := smallest_le_toInt v
  have hhigh := toInt_le_largest v
  rw [ofInt?, if_pos ⟨hlow, hhigh⟩, Option.some.injEq, ← Int64.toInt_inj, toInt_clamp]
  omega

/-- A sum in range does not wrap around. -/
theorem toInt_add_of_range {a b : Value} (hlow : smallest ≤ a.toInt + b.toInt)
    (hhigh : a.toInt + b.toInt ≤ largest) : (a + b).toInt = a.toInt + b.toInt := by
  simp only [smallest, largest] at hlow hhigh
  rw [Int64.toInt_add, Int.bmod_eq_of_le] <;> omega

/-- An integer is its two halves, rounded towards zero, and a rest of its own sign. -/
theorem halves_add_rest (n : Int) :
    2 * n.tdiv 2 + n.tmod 2 = n ∧ -1 ≤ n.tmod 2 ∧ n.tmod 2 ≤ 1 ∧
      (0 ≤ n → 0 ≤ n.tmod 2) ∧ (n ≤ 0 → n.tmod 2 ≤ 0) := by
  have hlow := Int.lt_tmod_of_pos n (b := 2) (by decide)
  have hhigh := Int.tmod_lt_of_pos n (b := 2) (by decide)
  refine ⟨Int.mul_tdiv_add_tmod n 2, by omega, by omega, Int.tmod_nonneg 2, fun hn => ?_⟩
  have hneg : 0 ≤ (-n).tmod 2 := Int.tmod_nonneg 2 (by omega)
  rw [Int.neg_tmod] at hneg
  omega

theorem toInt_div_two (a : Value) : (a / 2).toInt = a.toInt.tdiv 2 := by
  have hlow := smallest_le_toInt a
  have hhigh := toInt_le_largest a
  have hhalf := halves_add_rest a.toInt
  have htwo : Int64.toInt 2 = 2 := rfl
  simp only [smallest, largest] at hlow hhigh
  rw [Int64.toInt_div, htwo, Int.bmod_eq_of_le] <;> omega

theorem toInt_mod_two (a : Value) : (a % 2).toInt = a.toInt.tmod 2 := by
  rw [Int64.toInt_mod]
  rfl

end Value

namespace Combinator

open Value

/-- A combinator taken step by step: each result has to be the exact one, but for a sum, which is
    held inside the range. -/
def applyChecked? (f : Combinator) (left right : Value) : Option Value :=
  match f with
  | .max => ofInt? (Max.max left.toInt right.toInt)
  | .min => ofInt? (Min.min left.toInt right.toInt)
  | .sum => ofInt? (Max.max smallest (Min.min largest (left.toInt + right.toInt)))
  | .mean => do
    let halves ← addChecked? (← divChecked? left 2) (← divChecked? right 2)
    let rests ← addChecked? (← modChecked? left 2) (← modChecked? right 2)
    addChecked? halves (← divChecked? rests 2)

/-! ### The mean -/

section Mean

variable (a b : Value)

/-- The halves of two values have their exact sum in range. -/
theorem toInt_halves : (a / 2 + b / 2).toInt = a.toInt.tdiv 2 + b.toInt.tdiv 2 := by
  have ha := halves_add_rest a.toInt
  have hb := halves_add_rest b.toInt
  have hlow := And.intro (smallest_le_toInt a) (smallest_le_toInt b)
  have hhigh := And.intro (toInt_le_largest a) (toInt_le_largest b)
  simp only [smallest, largest] at hlow hhigh
  rw [toInt_add_of_range, toInt_div_two, toInt_div_two] <;> rw [toInt_div_two, toInt_div_two] <;>
    simp only [smallest, largest] <;> omega

theorem toInt_rests : (a % 2 + b % 2).toInt = a.toInt.tmod 2 + b.toInt.tmod 2 := by
  have ha := halves_add_rest a.toInt
  have hb := halves_add_rest b.toInt
  rw [toInt_add_of_range, toInt_mod_two, toInt_mod_two] <;> rw [toInt_mod_two, toInt_mod_two] <;>
    simp only [smallest, largest] <;> omega

theorem toInt_mean : (apply .mean a b).toInt =
    a.toInt.tdiv 2 + b.toInt.tdiv 2 + (a.toInt.tmod 2 + b.toInt.tmod 2).tdiv 2 := by
  have ha := halves_add_rest a.toInt
  have hb := halves_add_rest b.toInt
  have hrest := halves_add_rest (a.toInt.tmod 2 + b.toInt.tmod 2)
  have hlow := And.intro (smallest_le_toInt a) (smallest_le_toInt b)
  have hhigh := And.intro (toInt_le_largest a) (toInt_le_largest b)
  simp only [smallest, largest] at hlow hhigh
  rw [apply, toInt_add_of_range, toInt_halves, toInt_div_two, toInt_rests] <;>
    rw [toInt_halves, toInt_div_two, toInt_rests] <;> simp only [smallest, largest] <;> omega

end Mean

/-- **No step of a combinator leaves the range**, whatever the arguments are. -/
theorem applyChecked?_eq (f : Combinator) (a b : Value) :
    f.applyChecked? a b = some (f.apply a b) := by
  cases f with
  | max =>
    refine ofInt?_eq_some ?_
    simp only [apply, Int64.le_iff_toInt_le]
    split <;> omega
  | min =>
    refine ofInt?_eq_some ?_
    simp only [apply, Int64.le_iff_toInt_le]
    split <;> omega
  | sum => exact ofInt?_eq_some (toInt_addClamped a b)
  | mean =>
    have hhalves : addChecked? (a / 2) (b / 2) = some (a / 2 + b / 2) := by
      refine ofInt?_eq_some ?_
      rw [toInt_halves, toInt_div_two, toInt_div_two]
    have hrests : addChecked? (a % 2) (b % 2) = some (a % 2 + b % 2) := by
      refine ofInt?_eq_some ?_
      rw [toInt_rests, toInt_mod_two, toInt_mod_two]
    have hmean : addChecked? (a / 2 + b / 2) ((a % 2 + b % 2) / 2) = some (apply .mean a b) := by
      refine ofInt?_eq_some ?_
      rw [toInt_mean, toInt_halves, toInt_div_two, toInt_rests]
    have hdiv : ∀ v : Value, divChecked? v 2 = some (v / 2) := fun v =>
      ofInt?_eq_some (toInt_div_two v)
    have hmod : ∀ v : Value, modChecked? v 2 = some (v % 2) := fun v =>
      ofInt?_eq_some (toInt_mod_two v)
    simp only [applyChecked?, hdiv, hmod, Option.bind_eq_bind, Option.bind_some, hhalves, hrests,
      hmean]

/-! ### Natural numbers -/

/-- What a combinator means for natural numbers. -/
def exact : Combinator → Nat → Nat → Nat
  | .max, m, n => Max.max m n
  | .min, m, n => Min.min m n
  | .sum, m, n => Min.min limit (m + n)
  | .mean, m, n => (m + n) / 2

/-- On values that are not negative, a combinator computes what it means for natural numbers. -/
theorem toInt_apply (f : Combinator) {a b : Value} {m n : Nat} (ha : a.toInt = m)
    (hb : b.toInt = n) : (f.apply a b).toInt = f.exact m n := by
  cases f with
  | max =>
    simp only [apply, exact, Int64.le_iff_toInt_le, ha, hb]
    split <;> omega
  | min =>
    simp only [apply, exact, Int64.le_iff_toInt_le, ha, hb]
    split <;> omega
  | sum =>
    simp only [apply, exact, toInt_addClamped, ha, hb, smallest, largest_eq]
    omega
  | mean =>
    -- no rest is negative, so rounding towards zero is rounding down
    have hm := halves_add_rest m
    have hn := halves_add_rest n
    have hrest := halves_add_rest ((m : Int).tmod 2 + (n : Int).tmod 2)
    rw [toInt_mean, ha, hb, exact]
    omega

end Combinator

end TextRules
