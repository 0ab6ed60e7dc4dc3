import TextRules.Text.Decimal

namespace TextRules

/-!
# Values

The numbers that operands compute with: signed 64-bit integers.  An integer outside their range is
replaced by the nearest end of the range, so sums and products never wrap around.
-/

/-- A signed 64-bit integer. -/
abbrev Value := Int64

namespace Value

/-- The largest value, as an integer. -/
def largest : Int := 9223372036854775807

/-- The smallest value, as an integer. -/
def smallest : Int := -9223372036854775808

/-- The value nearest to an integer. -/
def clamp (n : Int) : Value :=
  if n < smallest then Int64.minValue
  else if largest < n then Int64.maxValue
  else Int64.ofInt n

/-- The sum of two values, held inside the range. -/
def addClamped (a b : Value) : Value := clamp (a.toInt + b.toInt)

/-- The product of two values, held inside the range. -/
def mulClamped (a b : Value) : Value := clamp (a.toInt * b.toInt)

/-- A natural number as a value, if it is in range. -/
def ofNat? (n : Nat) : Option Value :=
  if n ≤ largest then some (clamp n) else none

/-- A value in decimal, with a minus sign if it is negative. -/
def text (v : Value) : String :=
  match v.toInt with
  | .ofNat n => decimalText n
  | .negSucc n => String.ofList ('-' :: decimal (n + 1))

/-! ### What clamping does to the integer -/

theorem toInt_clamp (n : Int) : (clamp n).toInt = max smallest (min largest n) := by
  unfold clamp
  split
  · rw [Int64.toInt_minValue]; simp only [smallest, largest] at *; omega
  · split
    · rw [Int64.toInt_maxValue]; simp only [smallest, largest] at *; omega
    · rw [Int64.toInt_ofInt_of_le] <;> simp only [smallest, largest] at * <;> omega

theorem smallest_le_toInt (v : Value) : smallest ≤ v.toInt := by
  have := Int64.le_toInt v
  simpa [smallest] using this

theorem toInt_le_largest (v : Value) : v.toInt ≤ largest := by
  have := Int64.toInt_lt v
  simp only [largest]
  omega

theorem toInt_addClamped (a b : Value) :
    (addClamped a b).toInt = max smallest (min largest (a.toInt + b.toInt)) :=
  toInt_clamp _

theorem toInt_mulClamped (a b : Value) :
    (mulClamped a b).toInt = max smallest (min largest (a.toInt * b.toInt)) :=
  toInt_clamp _

theorem toInt_of_ofNat? {n : Nat} {v : Value} (h : ofNat? n = some v) : v.toInt = n := by
  simp only [ofNat?, Option.ite_none_right_eq_some, Option.some.injEq] at h
  obtain ⟨hn, rfl⟩ := h
  rw [toInt_clamp]
  simp only [smallest, largest] at *
  omega

end Value

end TextRules
