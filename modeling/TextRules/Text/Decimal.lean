namespace TextRules

/-!
# Decimal numbers

Reading and writing natural numbers in ASCII decimal digits.  Any number of leading zeros is read,
none is written.
-/

/-- Whether a text is a run of at least one ASCII digit and nothing else. -/
def isDecimal (text : List Char) : Bool := !text.isEmpty && text.all Char.isDigit

/-- The number that a run of decimal digits stands for. -/
def decimalValue (digits : List Char) : Nat := Nat.ofDigitChars 10 digits 0

/-- The digits of a number, without leading zeros. -/
def decimal (n : Nat) : List Char := Nat.toDigits 10 n

/-- A number as text. -/
def decimalText (n : Nat) : String := String.ofList (decimal n)

/-! ### Writing and reading -/

theorem isDecimal_iff {text : List Char} :
    isDecimal text = true ↔ text ≠ [] ∧ ∀ c ∈ text, c.isDigit = true := by
  cases text <;> simp [isDecimal]

theorem isDecimal_decimal (n : Nat) : isDecimal (decimal n) = true := by
  rw [isDecimal_iff]
  exact ⟨Nat.toDigits_ne_nil, fun c hc => Nat.isDigit_of_mem_toDigits (by decide) (by decide) hc⟩

theorem decimalValue_decimal (n : Nat) : decimalValue (decimal n) = n := by
  simp [decimalValue, decimal]

example : decimalValue "007".toList = 7 := by decide

end TextRules
