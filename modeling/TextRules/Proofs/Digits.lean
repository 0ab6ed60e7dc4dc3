import TextRules.Evaluation

namespace TextRules

/-!
# Texts with and without numbers

The statistics of a text are missing exactly if the text has no digit and the policy rejects such
texts.  The scan never forgets that it has met a digit (`NumberScan.count_foldl_step_eq_zero_iff`),
since a number is counted from its first digit on.
-/

/-- Whether a text has a decimal digit of ASCII in it. -/
def hasDigit (text : String) : Bool := text.toList.any Char.isDigit

theorem hasDigit_eq_false_iff {text : String} :
    hasDigit text = false ↔ ∀ c ∈ text.toList, c.isDigit = false := by
  simp [hasDigit]

/-! ### The scan -/

namespace NumberScan

/-- After one character there are no numbers exactly if there were none and it is no digit. -/
theorem count_step_eq_zero_iff (s : NumberScan) (c : Char) :
    (s.step c).stats.count = 0 ↔ s.stats.count = 0 ∧ c.isDigit = false := by
  by_cases hc : c.isDigit = true
  · simp [step, stats, NumberStats.add, hc]
  · rw [Bool.not_eq_true] at hc
    cases hs : s.current with
    | none => simp [step, hc, hs]
    | some number => simp [step, stats, NumberStats.add, hc, hs]

/-- After a text there are no numbers exactly if there were none and it has no digit. -/
theorem count_foldl_step_eq_zero_iff (s : NumberScan) (text : List Char) :
    (text.foldl step s).stats.count = 0 ↔
      s.stats.count = 0 ∧ ∀ c ∈ text, c.isDigit = false := by
  induction text generalizing s with
  | nil => simp
  | cons c rest ih =>
    rw [List.foldl_cons, ih, count_step_eq_zero_iff, List.forall_mem_cons, and_assoc]

end NumberScan

/-- The numbers of a text have an average exactly if the text has a digit. -/
theorem NumberStats.average?_ofText_eq_none_iff (text : String) :
    (ofText text).average? = .none ↔ hasDigit text = false := by
  have hcount : (ofText text).count = 0 ↔ hasDigit text = false := by
    rw [hasDigit_eq_false_iff, ofText, NumberScan.count_foldl_step_eq_zero_iff]
    simp [NumberScan.start, NumberScan.stats, NumberStats.none]
  rw [average?, ← hcount]
  split <;> simp_all

/-- A text with a digit has an average. -/
theorem NumberStats.exists_average?_ofText {text : String} (h : hasDigit text = true) :
    ∃ average, (ofText text).average? = some average := by
  cases haverage : (ofText text).average? with
  | none =>
    rw [average?_ofText_eq_none_iff, h] at haverage
    cases haverage
  | some average => exact ⟨average, rfl⟩

/-! ### Subjects -/

/-- A text without digits has no statistics under a policy that rejects it. -/
theorem Subject.ofText_reject {text : String} (h : hasDigit text = false) :
    Subject.ofText .reject text = ⟨text, none, none⟩ := by
  have haverage := (NumberStats.average?_ofText_eq_none_iff text).mpr h
  simp [Subject.ofText, haverage]

/-- Every other text has both statistics. -/
theorem Subject.isSome_ofText {policy : EmptyPolicy} {text : String}
    (h : policy = .zero ∨ hasDigit text = true) :
    (Subject.ofText policy text).total.isSome = true ∧
      (Subject.ofText policy text).average.isSome = true := by
  cases haverage : (NumberStats.ofText text).average? with
  | some average => simp [Subject.ofText, haverage]
  | none =>
    have hdigit := (NumberStats.average?_ofText_eq_none_iff text).mp haverage
    rcases h with rfl | h
    · simp [Subject.ofText, haverage]
    · rw [hdigit] at h
      cases h

end TextRules
