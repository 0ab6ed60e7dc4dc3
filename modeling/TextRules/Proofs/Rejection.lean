import TextRules.Proofs.Batches
import TextRules.Proofs.Checking
import TextRules.Proofs.Numbers

namespace TextRules

/-!
# What rejecting adds

A text without numbers has no sum and no average under the policy that rejects such texts, and under
the other one both are zero.  The two policies are compared over any tokens, well-formed or not.  A
statistic that is missing ends an evaluation wherever it stands, so it can come before a fault in
the shape that the other policy finds: in the same operand, in the other one or in a later rule.

* `AddsOnly` — the relation between two outcomes, which composed computations keep.
* `Reading.AddsFaults.step`, `Reading.AddsFaults.run` — one token keeps it, and so does any list of
  tokens.
* `Operand.value_addsOnly`, `Rule.checkText_addsOnly`, `Registry.checkEntries_addsOnly` — operands,
  rules and lists of rules.
* `Registry.rejecting_adds_noNumbers` — rejecting adds the want of numbers and nothing else.
-/

/-! ### Outcomes with faults added -/

section AddsOnly

variable {ε η α β : Type} {E F : ε → Prop} {x y : Except ε α}

/-- An outcome adds only faults of a kind to another outcome: it is the same one, or such a
    fault. -/
def AddsOnly (E : ε → Prop) (x y : Except ε α) : Prop := x = y ∨ ∃ e, E e ∧ x = .error e

namespace AddsOnly

theorem refl (x : Except ε α) : AddsOnly E x x := .inl rfl

theorem mono (h : AddsOnly E x y) (hEF : ∀ e, E e → F e) : AddsOnly F x y := by
  obtain hsame | ⟨e, he, hx⟩ := h
  · exact .inl hsame
  · exact .inr ⟨e, hEF e he, hx⟩

/-- A fault that was added ends a composed computation, and otherwise both go on from the same
    value. -/
theorem bind {f g : α → Except ε β} (h : AddsOnly E x y) (hfg : ∀ a, AddsOnly E (f a) (g a)) :
    AddsOnly E (x.bind f) (y.bind g) := by
  obtain rfl | ⟨e, he, rfl⟩ := h
  · cases x with
    | error e => exact refl _
    | ok a => exact hfg a
  · exact .inr ⟨e, he, rfl⟩

theorem map (h : AddsOnly E x y) (f : α → β) : AddsOnly E (x.map f) (y.map f) := by
  obtain rfl | ⟨e, he, rfl⟩ := h
  · exact refl _
  · exact .inr ⟨e, he, rfl⟩

theorem mapError (h : AddsOnly E x y) (f : ε → η) :
    AddsOnly (fun told => ∃ e, E e ∧ f e = told) (x.mapError f) (y.mapError f) := by
  obtain rfl | ⟨e, he, rfl⟩ := h
  · exact refl _
  · exact .inr ⟨f e, ⟨e, he, rfl⟩, rfl⟩

/-- A list is worked through up to the first fault, and an added one may come first. -/
theorem forEach {f g : β → Logged (Except ε α)} {xs : List β}
    (h : ∀ b ∈ xs, AddsOnly E (f b).value (g b).value) :
    AddsOnly E (Logged.forEach f xs).value (Logged.forEach g xs).value := by
  induction xs with
  | nil => exact refl _
  | cons b rest ih =>
    rw [List.forall_mem_cons] at h
    have hrest := ih h.2
    rw [Logged.forEach, Logged.forEach, Logged.value_bind, Logged.value_bind]
    obtain hsame | ⟨e, he, hfault⟩ := h.1
    · rw [hsame]
      cases (g b).value with
      | error e => exact refl _
      | ok a => exact hrest.map _
    · rw [hfault]
      exact .inr ⟨e, he, rfl⟩

end AddsOnly

end AddsOnly

/-! ### Readings -/

namespace Reading

variable {ε V : Type} {E : ε → Prop} {L : Leaf → Prop} {r r' : Reading ε V}

/-- A reading adds only faults of a kind to another one: it does so at some leaves, and is the same
    in all else. -/
structure AddsFaults (E : ε → Prop) (L : Leaf → Prop) (r r' : Reading ε V) : Prop where
  leaf : ∀ l, L l → AddsOnly E (r.leaf l) (r'.leaf l)
  combine : r.combine = r'.combine
  badShape : r.badShape = r'.badShape

namespace AddsFaults

/-- One token adds only such faults.  A leaf is read before the stack is looked at, so a fault of
    the leaf comes before an operand too many. -/
theorem step (h : AddsFaults E L r r') {t : Token} (ht : ∀ l, t = .leaf l → L l)
    (slots : List (Slot Combinator V)) :
    AddsOnly E (r.step slots t) (r'.step slots t) := by
  cases t with
  | call f => exact .refl _
  | leaf l =>
    rw [step_leaf, step_leaf, h.combine, h.badShape]
    exact (h.leaf l (ht l rfl)).bind fun value => .refl _

/-- A list of tokens adds only such faults, whatever lies on the stack. -/
theorem run (h : AddsFaults E L r r') {tokens : Operand} (ht : ∀ l, Token.leaf l ∈ tokens → L l)
    (slots : List (Slot Combinator V)) :
    AddsOnly E (r.run slots tokens) (r'.run slots tokens) := by
  induction tokens generalizing slots with
  | nil => exact .refl _
  | cons t rest ih =>
    rw [run_cons, run_cons]
    have hstep := h.step (t := t) (fun l hl => ht l (hl ▸ List.mem_cons_self)) slots
    exact hstep.bind fun next => ih (fun l hl => ht l (List.mem_cons_of_mem t hl)) next

theorem reduce (h : AddsFaults E L r r') {tokens : Operand}
    (ht : ∀ l, Token.leaf l ∈ tokens → L l) :
    AddsOnly E (r.reduce tokens) (r'.reduce tokens) := by
  rw [reduce_eq_bind, reduce_eq_bind, h.badShape]
  exact (h.run ht []).bind fun slots => .refl _

end AddsFaults

end Reading

/-! ### The two policies -/

/-- The want of numbers, where something asks for them on a text that has no digit. -/
def NumbersWanting (text : String) (asks : Prop) (cause : EvalError) : Prop :=
  cause = .noNumbers ∧ hasDigit text = false ∧ asks

section Policies

variable {text : String} {asks asks' : Prop}

theorem AddsOnly.of_part {α : Type} {x y : Except EvalError α}
    (h : AddsOnly (NumbersWanting text asks) x y) (hasks : asks → asks') :
    AddsOnly (NumbersWanting text asks') x y := by
  refine h.mono ?_
  rintro cause ⟨hcause, hdigit, hpart⟩
  exact ⟨hcause, hdigit, hasks hpart⟩

/-- A text with a digit is the same subject under both policies. -/
theorem Subject.ofText_reject_eq_zero (h : hasDigit text = true) :
    ofText .reject text = ofText .zero text := by
  obtain ⟨average, haverage⟩ := NumberStats.exists_average?_ofText h
  simp [ofText, haverage]

/-- A leaf has the same value under both policies, or asks for a statistic that is missing. -/
theorem Leaf.value_addsOnly (text : String) (l : Leaf) :
    AddsOnly (NumbersWanting text (l.readsNumbers = true))
      (l.value (Subject.ofText .reject text)) (l.value (Subject.ofText .zero text)) := by
  by_cases hdigit : hasDigit text = true
  · rw [Subject.ofText_reject_eq_zero hdigit]
    exact .refl _
  · have hdigit : hasDigit text = false := by simpa using hdigit
    have hreject := Subject.ofText_reject hdigit
    cases l with
    | number value => exact .refl _
    | count needle =>
      -- what is counted is the text, which no policy changes
      rw [Leaf.value, Leaf.value, Subject.text_ofText, Subject.text_ofText]
      exact .refl _
    | total => exact .inr ⟨.noNumbers, ⟨rfl, hdigit, rfl⟩, by rw [hreject]; rfl⟩
    | average => exact .inr ⟨.noNumbers, ⟨rfl, hdigit, rfl⟩, by rw [hreject]; rfl⟩

theorem Operand.value_addsOnly (text : String) (tokens : Operand) :
    AddsOnly (NumbersWanting text (∃ t ∈ tokens, t.readsNumbers = true))
      (Operand.value (Subject.ofText .reject text) tokens)
      (Operand.value (Subject.ofText .zero text) tokens) := by
  have hreading : Reading.AddsFaults
      (NumbersWanting text (∃ t ∈ tokens, t.readsNumbers = true)) (fun l => .leaf l ∈ tokens)
      (valueReading (Subject.ofText .reject text)) (valueReading (Subject.ofText .zero text)) := {
    leaf := fun l hl => (Leaf.value_addsOnly text l).of_part fun hreads => ⟨.leaf l, hl, hreads⟩
    combine := rfl
    badShape := rfl }
  exact hreading.reduce fun l hl => hl

/- A missing sum is told before the second operand too many, which the other policy finds. -/
example : Operand.value (Subject.ofText .reject "") [.leaf .total, .leaf .total] =
      .error .noNumbers ∧
    Operand.value (Subject.ofText .zero "") [.leaf .total, .leaf .total] =
      .error (.malformed .surplusOperand) := ⟨rfl, rfl⟩

/-- Where the statistics are zeros, nothing fails for want of numbers. -/
theorem Operand.value_zero_ne_noNumbers (text : String) (tokens : Operand) :
    Operand.value (Subject.ofText .zero text) tokens ≠ .error .noNumbers := by
  have hpresent : ∀ t ∈ tokens, t.isMissing (Subject.ofText .zero text) = false := by
    intro t _
    by_contra hmissing
    rw [Bool.not_eq_false, Token.isMissing_ofText_iff] at hmissing
    cases hmissing.1
  intro hvalue
  -- nothing is missing, so only the shape could be at fault
  have hsame := sameShape_of_forall_not_isMissing hpresent
  rw [hvalue] at hsame
  generalize Operand.check tokens = shape at hsame
  cases hsame with
  | error h => cases h

end Policies

/-! ### Rules -/

namespace Rule

theorem compare_addsOnly (text : String) (rule : Rule) :
    AddsOnly (NumbersWanting text (rule.readsNumbers = true))
      (compare (Subject.ofText .reject text) rule) (compare (Subject.ofText .zero text) rule) := by
  have hleft := Operand.value_addsOnly text rule.left
  have hright := Operand.value_addsOnly text rule.right
  -- the want of numbers on the left may come before a fault on the right
  refine (hleft.of_part fun hreads => readsNumbers_iff.mpr (.inl hreads)).bind fun left => ?_
  exact (hright.of_part fun hreads => readsNumbers_iff.mpr (.inr hreads)).bind fun right => .refl _

theorem checkText_addsOnly (text : String) (rule : Rule) :
    AddsOnly (NumbersWanting text (rule.readsNumbers = true))
      (checkText .reject text rule).value (checkText .zero text rule).value := by
  rw [checkText, checkText, value_check, value_check]
  exact (compare_addsOnly text rule).map _

theorem checkText_zero_ne_noNumbers (text : String) (rule : Rule) :
    (checkText .zero text rule).value ≠ .error .noNumbers := by
  rw [checkText, value_check, ne_eq, map_eq_error_iff, compare_eq_error_iff]
  rintro (hleft | ⟨-, hright⟩)
  · exact Operand.value_zero_ne_noNumbers text rule.left hleft
  · exact Operand.value_zero_ne_noNumbers text rule.right hright

theorem checkAllText_addsOnly (text : String) (rules : List Rule) :
    AddsOnly (NumbersWanting text (∃ rule ∈ rules, rule.readsNumbers = true))
      (checkAllText .reject text rules).value (checkAllText .zero text rules).value := by
  refine AddsOnly.forEach fun rule hrule => ?_
  exact (checkText_addsOnly text rule).of_part fun hreads => ⟨rule, hrule, hreads⟩

theorem checkAllText_zero_ne_noNumbers (text : String) (rules : List Rule) :
    (checkAllText .zero text rules).value ≠ .error .noNumbers := by
  intro h
  obtain ⟨rule, -, hrule⟩ := Logged.exists_of_forEach_eq_error h
  exact checkText_zero_ne_noNumbers text rule hrule

end Rule

/-! ### Registries -/

namespace Registry

/-- The refusal that tells the want of numbers, with the id of a rule that asks for them. -/
def RefusesFor (entries : List Entry) (text : String) (refusal : Refusal) : Prop :=
  ∃ entry ∈ entries, ∃ cause, NumbersWanting text (entry.rule.readsNumbers = true) cause ∧
    refusal = .notEvaluable entry.id cause

theorem checkEntries_addsOnly (entries : List Entry) (text : String) :
    AddsOnly (RefusesFor entries text) (checkEntries .reject entries text).value
      (checkEntries .zero entries text).value := by
  refine AddsOnly.forEach fun entry hentry => ?_
  refine ((Rule.checkText_addsOnly text entry.rule).mapError _).mono ?_
  rintro refusal ⟨cause, hcause, hrefusal⟩
  exact ⟨entry, hentry, cause, hcause, hrefusal.symm⟩

theorem checkEntries_zero_ne_noNumbers (entries : List Entry) (text : String) (id : RuleId) :
    (checkEntries .zero entries text).value ≠ .error (.notEvaluable id .noNumbers) := by
  intro h
  obtain ⟨entry, -, hentry⟩ := Logged.exists_of_forEach_eq_error h
  obtain ⟨cause, hcause, hid⟩ := mapError_eq_error_iff.mp hentry
  obtain ⟨-, rfl⟩ := Refusal.notEvaluable.inj hid
  exact Rule.checkText_zero_ne_noNumbers text entry.rule hcause

/-- **Rejecting adds the want of numbers and nothing else.** Compare what the policy that rejects
    texts without numbers gives with what the other policy gives, for a rule, for a list of rules,
    and for an owner's check of one text and of several, whether the rules are well-formed or not.
    It is the same value or the same fault, or it is that numbers are wanting, and this only on a
    text without digits and for a rule that asks for numbers.  The other policy never finds numbers
    wanting. -/
theorem rejecting_adds_noNumbers (text : String) (rule : Rule) (rules : List Rule)
    (book : RuleBook) (owner : String) (texts : List String) :
    (AddsOnly (NumbersWanting text (rule.readsNumbers = true))
        (Rule.checkText .reject text rule).value (Rule.checkText .zero text rule).value ∧
      (Rule.checkText .zero text rule).value ≠ .error .noNumbers) ∧
    (AddsOnly (NumbersWanting text (∃ rule ∈ rules, rule.readsNumbers = true))
        (Rule.checkAllText .reject text rules).value (Rule.checkAllText .zero text rules).value ∧
      (Rule.checkAllText .zero text rules).value ≠ .error .noNumbers) ∧
    (AddsOnly (RefusesFor (book.ownedBy owner) text)
        (check ⟨book, .reject⟩ owner text).value (check ⟨book, .zero⟩ owner text).value ∧
      ∀ id, (check ⟨book, .zero⟩ owner text).value ≠ .error (.notEvaluable id .noNumbers)) ∧
    (AddsOnly (fun refusal => ∃ text ∈ texts, RefusesFor (book.ownedBy owner) text refusal)
        (checkAll ⟨book, .reject⟩ owner texts).value
        (checkAll ⟨book, .zero⟩ owner texts).value ∧
      ∀ id, (checkAll ⟨book, .zero⟩ owner texts).value ≠
        .error (.notEvaluable id .noNumbers)) := by
  refine ⟨⟨Rule.checkText_addsOnly text rule, Rule.checkText_zero_ne_noNumbers text rule⟩,
    ⟨Rule.checkAllText_addsOnly text rules, Rule.checkAllText_zero_ne_noNumbers text rules⟩,
    ⟨checkEntries_addsOnly _ text, checkEntries_zero_ne_noNumbers _ text⟩, ?_, ?_⟩
  · refine AddsOnly.forEach fun text htext => (checkEntries_addsOnly _ text).mono ?_
    intro refusal hrefuses
    exact ⟨text, htext, hrefuses⟩
  · intro id h
    obtain ⟨text, -, htext⟩ := Logged.exists_of_forEach_eq_error h
    exact checkEntries_zero_ne_noNumbers _ text id htext

end Registry

end TextRules
