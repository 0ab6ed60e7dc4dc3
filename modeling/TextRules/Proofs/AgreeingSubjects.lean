import TextRules.Proofs.Checking
import TextRules.Proofs.Numbers

namespace TextRules

/-!
# What an operand asks for

The tokens of an operand name all that it asks a subject for: the texts to count, the sum, the
average.  Two subjects that agree on what is named cannot be told apart, however different they are
in all else and wherever the evaluation breaks off.

* `Subject.AgreeOn` — two subjects agree on what some tokens name.
* `Subject.AgreeOn.leaf_value`, `Operand.value_of_agreeOn` — then each leaf among the tokens has the
  same outcome for both, and so have the tokens, well-formed or not.
* `Rule.check_of_agreeOn` — a rule looks at the subject only through its two operands.
* `Subject.agreeOn_ofText` — if no token asks for numbers, neither the policy nor the numbers in
  the text matter.
* `Rule.sees_only_what_it_names` — the three of them together.
-/

/-- The number of places where a text occurs, as a value. -/
def countIn (needle text : String) : Value := Value.clamp (occurrences needle text)

/-! ### Subjects that agree -/

namespace Subject

/-- Two subjects agree on what some tokens name: on the count of each text to count among them, and
    on a statistic if it is asked for. -/
structure AgreeOn (tokens : Operand) (s s' : Subject) : Prop where
  count : ∀ needle, .leaf (.count needle) ∈ tokens → countIn needle s.text = countIn needle s'.text
  total : .leaf .total ∈ tokens → s.total = s'.total
  average : .leaf .average ∈ tokens → s.average = s'.average

namespace AgreeOn

variable {tokens part : Operand} {s s' : Subject}

/-- Fewer tokens name less. -/
theorem mono (h : AgreeOn tokens s s') (hpart : part ⊆ tokens) : AgreeOn part s s' where
  count needle hneedle := h.count needle (hpart hneedle)
  total htotal := h.total (hpart htotal)
  average haverage := h.average (hpart haverage)

/-- A leaf looks at nothing but what it names. -/
theorem leaf_value (h : AgreeOn tokens s s') {l : Leaf} (hl : .leaf l ∈ tokens) :
    l.value s = l.value s' := by
  cases l with
  | number value => rfl
  | count needle => exact congrArg Except.ok (h.count needle hl)
  | total => exact congrArg available (h.total hl)
  | average => exact congrArg available (h.average hl)

end AgreeOn

/-- Where nothing asks for numbers, texts with the same counts agree under any two policies. -/
theorem agreeOn_ofText {tokens : Operand} {text text' : String}
    (hreads : ∀ t ∈ tokens, t.readsNumbers = false)
    (hcount : ∀ needle, .leaf (.count needle) ∈ tokens → countIn needle text = countIn needle text')
    (policy policy' : EmptyPolicy) :
    AgreeOn tokens (ofText policy text) (ofText policy' text') where
  count needle hneedle := by
    rw [text_ofText, text_ofText]
    exact hcount needle hneedle
  total htotal := absurd (hreads _ htotal) (by decide)
  average haverage := absurd (hreads _ haverage) (by decide)

end Subject

/-! ### Operands and rules -/

/-- Where two subjects agree on what an operand names, its outcome is the same for both. -/
theorem Operand.value_of_agreeOn {tokens : Operand} {s s' : Subject}
    (h : s.AgreeOn tokens s') : Operand.value s tokens = Operand.value s' tokens :=
  value_congr fun _ hl => h.leaf_value hl

namespace Rule

/-- Where two subjects agree on what a rule names, it is checked in the same way for both, down to
    the log records. -/
theorem check_of_agreeOn {rule : Rule} {s s' : Subject}
    (h : s.AgreeOn (rule.left ++ rule.right) s') : check s rule = check s' rule := by
  have hleft := Operand.value_of_agreeOn (h.mono (List.subset_append_left _ _))
  have hright := Operand.value_of_agreeOn (h.mono (List.subset_append_right _ _))
  rw [check, check, compare, compare, hleft, hright]

theorem readsNumbers_eq_false_iff {rule : Rule} :
    rule.readsNumbers = false ↔ ∀ t ∈ rule.left ++ rule.right, t.readsNumbers = false := by
  rw [readsNumbers, List.any_eq_false]
  simp only [Bool.not_eq_true]

/-- **A rule sees only what it names.** Let two subjects agree on the counts of the texts that some
    tokens name, and on the sum and the average where they name these.  Then the tokens, in any
    order and number, have the same value for both or fail for the same cause; and a rule of such
    tokens is checked in the same way.  So the policy and the numbers in the text do not matter to
    a rule that does not ask for numbers: all that it sees of a text is its counts. -/
theorem sees_only_what_it_names (tokens : Operand) (rule : Rule) :
    (∀ s s' : Subject, s.AgreeOn tokens s' → Operand.value s tokens = Operand.value s' tokens) ∧
    (∀ s s' : Subject, s.AgreeOn (rule.left ++ rule.right) s' → check s rule = check s' rule) ∧
    (rule.readsNumbers = false → ∀ (policy policy' : EmptyPolicy) (text text' : String),
      (∀ needle, .leaf (.count needle) ∈ rule.left ++ rule.right →
        countIn needle text = countIn needle text') →
      checkText policy text rule = checkText policy' text' rule) := by
  refine ⟨fun s s' => Operand.value_of_agreeOn, fun s s' => check_of_agreeOn, ?_⟩
  intro hreads policy policy' text text' hcount
  have hagree := Subject.agreeOn_ofText (readsNumbers_eq_false_iff.mp hreads) hcount
  exact check_of_agreeOn (hagree policy policy')

/-- Tokens that break off at a surplus operand, for subjects of which only one has a sum; and a rule
    of counts, on a text with a number and, under the other policy, on one without. -/
theorem sees_only_what_it_names_past_fault :
    (Subject.AgreeOn [.leaf (.count "ab"), .leaf .average] ⟨"ab ab", some 7, some 3⟩
        ⟨"xabab", none, some 3⟩ ∧
      Operand.value ⟨"ab ab", some 7, some 3⟩ [.leaf (.count "ab"), .leaf .average] =
        Operand.value ⟨"xabab", none, some 3⟩ [.leaf (.count "ab"), .leaf .average] ∧
      Operand.value ⟨"xabab", none, some 3⟩ [.leaf (.count "ab"), .leaf .average] =
        .error (.malformed .surplusOperand) ∧
      check ⟨"ab ab", some 7, some 3⟩ ⟨[.leaf (.count "ab")], .lt, [.leaf .average]⟩ =
        check ⟨"xabab", none, some 3⟩ ⟨[.leaf (.count "ab")], .lt, [.leaf .average]⟩) ∧
    checkText .zero "ab9ab" ⟨[.leaf (.count "ab")], .ge, [.leaf (.number 2)]⟩ =
      checkText .reject "babab" ⟨[.leaf (.count "ab")], .ge, [.leaf (.number 2)]⟩ ∧
    (checkText .reject "babab" ⟨[.leaf (.count "ab")], .ge, [.leaf (.number 2)]⟩).value =
      .ok true := by
  obtain ⟨hoperand, hrule, -⟩ := sees_only_what_it_names [.leaf (.count "ab"), .leaf .average]
    ⟨[.leaf (.count "ab")], .lt, [.leaf .average]⟩
  obtain ⟨-, -, htext⟩ := sees_only_what_it_names []
    ⟨[.leaf (.count "ab")], .ge, [.leaf (.number 2)]⟩
  have hagree : Subject.AgreeOn [.leaf (.count "ab"), .leaf .average] ⟨"ab ab", some 7, some 3⟩
      ⟨"xabab", none, some 3⟩ := {
    count := by
      intro needle hneedle
      obtain rfl : needle = "ab" := by simpa using hneedle
      decide +kernel
    total := fun htotal => absurd htotal (by decide)
    average := fun _ => rfl }
  refine ⟨⟨hagree, hoperand _ _ hagree, rfl, hrule _ _ hagree⟩, htext rfl .zero .reject _ _ ?_,
    by decide +kernel⟩
  intro needle hneedle
  obtain rfl : needle = "ab" := by simpa using hneedle
  decide +kernel

end Rule

end TextRules
