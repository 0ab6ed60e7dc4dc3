import TextRules.Proofs.Outcome
import TextRules.Registry

namespace TextRules

/-!
# Many checks at once

Several rules are checked against one text whose numbers are looked up once, and several texts
against one list of rules.  The answers are those of single checks, one after the other, up to the
first that fails.

* `Logged.collects_forEach` — what working through a list comes to.
* `Registry.batches_follow_single_checks` — the three ways of checking many things at once, each
  told by the next simpler one.
-/

/-- Working through a list gives all values, or the first fault. -/
theorem Logged.collects_forEach {α β ε : Type} (f : α → Logged (Except ε β)) (xs : List α) :
    Collects (xs.map fun x => (f x).value) (Logged.forEach f xs).value := by
  induction xs with
  | nil => exact .nil
  | cons x rest ih =>
    rw [List.map_cons, forEach, value_bind]
    cases (f x).value with
    | error cause => exact .cons_error cause _
    | ok b => exact ih.cons_ok b

/-- Working through a list fails only as some member does. -/
theorem Logged.exists_of_forEach_eq_error {α β ε : Type} {f : α → Logged (Except ε β)}
    {xs : List α} {e : ε} (h : (Logged.forEach f xs).value = .error e) :
    ∃ x ∈ xs, (f x).value = .error e := by
  obtain ⟨values, rest, hsplit⟩ := ((Logged.collects_forEach f xs).error_iff e).mp h
  have hmem : Except.error e ∈ xs.map fun x => (f x).value := by
    rw [hsplit]
    exact List.mem_append_right _ List.mem_cons_self
  exact List.mem_map.mp hmem

namespace Registry

/-- The rules of an owner are checked one by one, and a failure is told with the id of its rule. -/
theorem collects_check (registry : Registry) (owner text : String) :
    Collects
      ((registry.rulesOf owner).map fun entry =>
        (Rule.checkText registry.policy text entry.rule).value.mapError (.notEvaluable entry.id))
      (registry.check owner text).value := by
  let checkEntry (entry : Entry) : Logged (Except Refusal Bool) :=
    (·.mapError (.notEvaluable entry.id)) <$>
      Rule.check (Subject.ofText registry.policy text) entry.rule
  exact Logged.collects_forEach checkEntry (registry.rulesOf owner)

/-- Texts are checked one by one. -/
theorem collects_checkAll (registry : Registry) (owner : String) (texts : List String) :
    Collects (texts.map fun text => (registry.check owner text).value)
      (registry.checkAll owner texts).value :=
  Logged.collects_forEach (checkEntries registry.policy (registry.rulesOf owner)) texts

/-- There is a verdict for each rule of the owner. -/
theorem length_of_check_eq_ok {registry : Registry} {owner text : String} {verdicts : List Bool}
    (h : (registry.check owner text).value = .ok verdicts) :
    verdicts.length = (registry.rulesOf owner).length := by
  have hcollects := registry.collects_check owner text
  rw [h] at hcollects
  rw [hcollects.length_eq, List.length_map]

/-- There is a row for each text, with a verdict for each rule of the owner. -/
theorem length_of_checkAll_eq_ok {registry : Registry} {owner : String} {texts : List String}
    {rows : List (List Bool)} (h : (registry.checkAll owner texts).value = .ok rows) :
    rows.length = texts.length ∧
      ∀ row ∈ rows, row.length = (registry.rulesOf owner).length := by
  have hcollects := registry.collects_checkAll owner texts
  rw [h] at hcollects
  constructor
  · rw [hcollects.length_eq, List.length_map]
  · intro row hrow
    -- a row is what the check of some text gives
    have hmem : Except.ok row ∈ texts.map fun text => (registry.check owner text).value := by
      rw [(hcollects.ok_iff rows).mp rfl]
      exact List.mem_map_of_mem hrow
    obtain ⟨text, -, hcheck⟩ := List.mem_map.mp hmem
    exact length_of_check_eq_ok hcheck

/-- Where every text can be checked, all of them can be checked at once. -/
theorem exists_checkAll_eq_ok {registry : Registry} {owner : String} {texts : List String}
    (h : ∀ text ∈ texts, ∃ verdicts, (registry.check owner text).value = .ok verdicts) :
    ∃ rows, (registry.checkAll owner texts).value = .ok rows := by
  refine (registry.collects_checkAll owner texts).exists_ok fun outcome houtcome => ?_
  obtain ⟨text, htext, rfl⟩ := List.mem_map.mp houtcome
  exact h text htext

/-- **Many checks at once are single checks.** Checking rules against a text gives what the single
    rules give, or the first fault.  An owner's check of a text gives what the owner's rules give
    in their order, or the first fault with the id of its rule.  An owner's check of several texts
    gives what the check of each text gives, or the first fault; if there is none, it gives a row
    for each text, with a verdict for each rule. -/
theorem batches_follow_single_checks (registry : Registry) (owner : String) (policy : EmptyPolicy)
    (text : String) (rules : List Rule) (texts : List String) :
    Collects (rules.map fun rule => (Rule.checkText policy text rule).value)
      (Rule.checkAllText policy text rules).value ∧
    Collects
      ((registry.rulesOf owner).map fun entry =>
        (Rule.checkText registry.policy text entry.rule).value.mapError (.notEvaluable entry.id))
      (registry.check owner text).value ∧
    Collects (texts.map fun text => (registry.check owner text).value)
      (registry.checkAll owner texts).value ∧
    ∀ rows, (registry.checkAll owner texts).value = .ok rows →
      rows.length = texts.length ∧
      ∀ row ∈ rows, row.length = (registry.rulesOf owner).length := by
  refine ⟨?_, registry.collects_check owner text, registry.collects_checkAll owner texts, ?_⟩
  · exact Logged.collects_forEach (Rule.check (Subject.ofText policy text)) rules
  · intro rows hrows
    exact length_of_checkAll_eq_ok hrows

end Registry

end TextRules
