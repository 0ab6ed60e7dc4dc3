import TextRules.Proofs.Outcome
import TextRules.Rule.Reader

namespace TextRules

/-!
# What a successful reading says

A rule that was read from a text is the two sides of the text at its first sign of a relation, and
each side passed the check of its shape.
-/

/-- An operand is read in two stages, words first and shape second. -/
theorem Operand.parse_eq_bind (text : String) :
    Operand.parse text =
      ((Operand.read text).mapError .words).bind fun tokens =>
        ((Operand.check tokens).mapError .shape).bind fun _ => .ok tokens := by
  unfold Operand.parse
  cases Operand.read text with
  | error cause => rfl
  | ok tokens =>
    simp only [mapError_ok, Except.bind]
    cases Operand.check tokens <;> rfl

/-- An operand is read from a text when the tokens of the text pass the check. -/
theorem Operand.parse_eq_ok_iff {text : String} {tokens : Operand} :
    Operand.parse text = .ok tokens ↔
      Operand.read text = .ok tokens ∧ Operand.check tokens = .ok () := by
  rw [parse_eq_bind, bind_eq_ok_iff]
  simp only [bind_eq_ok_iff, mapError_eq_ok_iff, Except.ok.injEq]
  constructor
  · rintro ⟨found, hread, ⟨⟩, hcheck, rfl⟩
    exact ⟨hread, hcheck⟩
  · rintro ⟨hread, hcheck⟩
    exact ⟨tokens, hread, (), hcheck, rfl⟩

/-- A rule is read from a text with balanced brackets that has an operand on either side of its
    first sign of a relation. -/
theorem Rule.parse_eq_ok_iff {text : String} {rule : Rule} :
    Rule.parse text = .ok rule ↔
      balanced text = true ∧ ∃ left right,
        splitAtRelation? text.toList = some (left, rule.relation, right) ∧ right ≠ [] ∧
        Operand.parse (String.ofList left) = .ok rule.left ∧
        Operand.parse (String.ofList right) = .ok rule.right := by
  unfold Rule.parse
  by_cases hb : balanced text = true
  · rw [if_pos hb]
    rcases hsplit : splitAtRelation? text.toList with _ | ⟨left, relation, right⟩
    · simp
    · cases right with
      | nil =>
        -- nothing follows the sign
        constructor
        · intro h
          cases h
        · rintro ⟨-, _, _, hfound, hne, -⟩
          obtain ⟨-, -, rfl⟩ : _ ∧ _ ∧ _ := by simpa using hfound
          exact absurd rfl hne
      | cons c right =>
        show (Rule.parseSide .left (String.ofList left)).bind (fun l =>
          (Rule.parseSide .right (String.ofList (c :: right))).bind fun r =>
            .ok ⟨l, relation, r⟩) = .ok rule ↔ _
        simp only [bind_eq_ok_iff, Rule.parseSide, mapError_eq_ok_iff, Except.ok.injEq,
          Option.some.injEq, Prod.mk.injEq]
        constructor
        · rintro ⟨l, hl, r, hr, rfl⟩
          exact ⟨hb, left, c :: right, ⟨rfl, rfl, rfl⟩, List.cons_ne_nil _ _, hl, hr⟩
        · rintro ⟨-, _, _, ⟨rfl, rfl, rfl⟩, -, hl, hr⟩
          exact ⟨rule.left, hl, rule.right, hr, rfl⟩
  · rw [if_neg hb]
    simp [hb]

/-- The operands of a rule that was read pass the check. -/
theorem Rule.check_of_parse {text : String} {rule : Rule} (h : Rule.parse text = .ok rule) :
    Operand.check rule.left = .ok () ∧ Operand.check rule.right = .ok () := by
  obtain ⟨-, left, right, -, -, hleft, hright⟩ := parse_eq_ok_iff.mp h
  exact ⟨(Operand.parse_eq_ok_iff.mp hleft).2, (Operand.parse_eq_ok_iff.mp hright).2⟩

end TextRules
