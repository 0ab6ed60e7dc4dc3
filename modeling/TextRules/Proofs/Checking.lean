import TextRules.Proofs.Digits
import TextRules.Proofs.Evaluation
import TextRules.Proofs.Reading
import TextRules.Rule.Check

namespace TextRules

/-!
# Why a rule cannot be checked

An operand that passes the check of its shape has a value unless it asks for a statistic that the
subject lacks (`Operand.value_eq_error_iff_of_check`).  A subject that was made from a text lacks
statistics only under the policy that rejects texts without digits.  Put together, a rule that was
read from a text fails on another text for one reason alone, which can be told from the rule, the
policy and the text (`Rule.checkText_fails_iff`).
-/

/-! ### Operands of the right shape -/

/-- A well-formed operand fails exactly if it asks for a missing statistic. -/
theorem Operand.value_eq_error_iff_of_check {s : Subject} {tokens : Operand}
    (h : Operand.check tokens = .ok ()) {cause : EvalError} :
    Operand.value s tokens = .error cause ↔
      cause = .noNumbers ∧ ∃ t ∈ tokens, t.isMissing s = true := by
  cases hfirst : tokens.findIdx? (Token.isMissing s) with
  | none =>
    have hnone := List.findIdx?_eq_none_iff.mp hfirst
    have hsame := sameShape_of_forall_not_isMissing hnone
    rw [h] at hsame
    obtain ⟨v, hv, -⟩ := hsame.of_ok_right
    rw [hv]
    constructor
    · intro hcause
      cases hcause
    · rintro ⟨-, t, ht, hmissing⟩
      rw [hnone t ht] at hmissing
      cases hmissing
  | some i =>
    obtain ⟨t, after, hsplit, hmissing, hbefore⟩ := append_of_findIdx?_eq_some hfirst
    -- a surplus operand before `t` would be one of the whole operand
    have hsurplus : Operand.check (tokens.take i) ≠ .error .surplusOperand := by
      intro hsurplus
      rw [hsplit, Operand.check_append_of_surplusOperand hsurplus] at h
      cases h
    have hvalue : Operand.value s tokens = .error .noNumbers := by
      rw [hsplit]
      exact value_eq_noNumbers hbefore hmissing hsurplus
    rw [hvalue]
    constructor
    · intro hcause
      refine ⟨(Except.error.inj hcause).symm, t, ?_, hmissing⟩
      rw [hsplit]
      exact List.mem_append_right _ List.mem_cons_self
    · rintro ⟨rfl, -⟩
      rfl

/-- What a subject made from a text lacks. -/
theorem Token.isMissing_ofText_iff {policy : EmptyPolicy} {text : String} {t : Token} :
    t.isMissing (Subject.ofText policy text) = true ↔
      policy = .reject ∧ hasDigit text = false ∧ t.readsNumbers = true := by
  by_cases hlacks : policy = .reject ∧ hasDigit text = false
  · obtain ⟨rfl, hdigit⟩ := hlacks
    rw [Subject.ofText_reject hdigit]
    cases t with
    | call f => simp [isMissing, readsNumbers]
    | leaf l => cases l <;> simp [isMissing, readsNumbers, Leaf.readsNumbers, hdigit]
  · have hhas : policy = .zero ∨ hasDigit text = true := by
      cases policy <;> simp_all
    obtain ⟨htotal, haverage⟩ := Subject.isSome_ofText hhas
    constructor
    · intro hmissing
      cases t with
      | call f => cases hmissing
      | leaf l => cases l <;> simp_all [isMissing]
    · rintro ⟨hpolicy, hdigit, -⟩
      exact absurd ⟨hpolicy, hdigit⟩ hlacks

/-! ### Rules -/

namespace Rule

/-- A comparison fails with its left operand, or else with its right one. -/
theorem compare_eq_error_iff {s : Subject} {rule : Rule} {cause : EvalError} :
    compare s rule = .error cause ↔
      Operand.value s rule.left = .error cause ∨
        (∃ v, Operand.value s rule.left = .ok v) ∧ Operand.value s rule.right = .error cause := by
  show ((Operand.value s rule.left).bind fun left =>
    (Operand.value s rule.right).bind fun right =>
      .ok (Comparison.mk left rule.relation right)) = _ ↔ _
  simp only [bind_eq_error_iff, reduceCtorEq, and_false, exists_false, or_false,
    exists_and_right]

/-- A rule asks for numbers exactly if one of its operands does. -/
theorem readsNumbers_iff {rule : Rule} : rule.readsNumbers = true ↔
    (∃ t ∈ rule.left, t.readsNumbers = true) ∨ ∃ t ∈ rule.right, t.readsNumbers = true := by
  simp [readsNumbers]

/-- A rule with well-formed operands fails on a text exactly if the policy rejects the text for its
    lack of digits and the rule asks for its numbers. -/
theorem value_checkText_eq_error_iff {policy : EmptyPolicy} {text : String} {rule : Rule}
    (hleft : Operand.check rule.left = .ok ()) (hright : Operand.check rule.right = .ok ())
    {cause : EvalError} :
    (checkText policy text rule).value = .error cause ↔
      cause = .noNumbers ∧ policy = .reject ∧ hasDigit text = false ∧
        rule.readsNumbers = true := by
  -- what each side fails for, in terms of the policy and the text
  have hl := @Operand.value_eq_error_iff_of_check (Subject.ofText policy text) rule.left hleft
  have hr := @Operand.value_eq_error_iff_of_check (Subject.ofText policy text) rule.right hright
  simp only [Token.isMissing_ofText_iff] at hl hr
  unfold checkText
  rw [value_check, map_eq_error_iff, compare_eq_error_iff, readsNumbers_iff]
  constructor
  · rintro (h | ⟨-, h⟩)
    · obtain ⟨rfl, t, ht, hpolicy, hdigit, hreads⟩ := hl.mp h
      exact ⟨rfl, hpolicy, hdigit, .inl ⟨t, ht, hreads⟩⟩
    · obtain ⟨rfl, t, ht, hpolicy, hdigit, hreads⟩ := hr.mp h
      exact ⟨rfl, hpolicy, hdigit, .inr ⟨t, ht, hreads⟩⟩
  · rintro ⟨rfl, hpolicy, hdigit, ⟨t, ht, hreads⟩ | ⟨t, ht, hreads⟩⟩
    · exact .inl (hl.mpr ⟨rfl, t, ht, hpolicy, hdigit, hreads⟩)
    · have hfails := hr.mpr ⟨rfl, t, ht, hpolicy, hdigit, hreads⟩
      -- the left operand has a value, or fails first and for the same reason
      cases hvalue : Operand.value (Subject.ofText policy text) rule.left with
      | ok v => exact .inr ⟨⟨v, rfl⟩, hfails⟩
      | error cause => exact .inl (congrArg _ (hl.mp hvalue).1)

/-- **The one reason why a rule that was read fails.** On any text and under either policy it fails
    exactly if the policy rejects texts without numbers, the text has no digit and the rule asks
    for its numbers; it fails then for want of numbers.  It is never found to be malformed. -/
theorem checkText_fails_iff {source : String} {rule : Rule} (h : Rule.parse source = .ok rule)
    (policy : EmptyPolicy) (text : String) :
    ((∃ cause, (checkText policy text rule).value = .error cause) ↔
      policy = .reject ∧ hasDigit text = false ∧ rule.readsNumbers = true) ∧
    (∀ cause, (checkText policy text rule).value = .error cause → cause = .noNumbers) ∧
    ∀ fault, (checkText policy text rule).value ≠ .error (.malformed fault) := by
  obtain ⟨hleft, hright⟩ := check_of_parse h
  refine ⟨?_, ?_, ?_⟩
  · simp only [value_checkText_eq_error_iff hleft hright, exists_eq_left]
  · intro cause hcause
    exact ((value_checkText_eq_error_iff hleft hright).mp hcause).1
  · intro fault hfault
    cases ((value_checkText_eq_error_iff hleft hright).mp hfault).1

theorem checkText_fails_for_average :
    ∃ rule, Rule.parse "max(7, avgofallnumberfromstring) > 1" = .ok rule ∧
      (checkText .reject "abba" rule).value = .error .noNumbers := by
  have hparse : Rule.parse "max(7, avgofallnumberfromstring) > 1" =
      .ok ⟨[.call .max, .leaf (.number 7), .leaf .average], .gt, [.leaf (.number 1)]⟩ := by
    decide +kernel
  obtain ⟨hfails, hcause, -⟩ := checkText_fails_iff hparse .reject "abba"
  obtain ⟨cause, h⟩ := hfails.mpr ⟨rfl, by decide +kernel, by decide +kernel⟩
  obtain rfl := hcause cause h
  exact ⟨_, hparse, h⟩

end Rule

end TextRules
