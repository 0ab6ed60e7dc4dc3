import TextRules.Proofs.Batches
import TextRules.Proofs.Checking
import TextRules.Proofs.Requests
import TextRules.Proofs.Shape

namespace TextRules

/-!
# The rules that a registry holds

Rules come into a registry by being read from texts, so every rule that is held has two well-formed
operands.

* `Registry.WellFormed.serve`, `Registry.WellFormed.serveAll` — one request, and any run of
  requests, keeps it so.
* `Registry.WellFormed.check_eq_ok`, `Registry.WellFormed.check_eq_error` — a check can then fail
  in one way only, and it tells the oldest rule that asks for numbers.
* `Registry.held_rules_can_be_checked` — both for every run from an empty book.
-/

namespace Registry

variable {registry : Registry} {owner text : String}

/-! ### Well-formed rules -/

/-- Every rule in the book has two well-formed operands. -/
def WellFormed (registry : Registry) : Prop :=
  ∀ entry ∈ registry.book.entries,
    Operand.check entry.rule.left = .ok () ∧ Operand.check entry.rule.right = .ok ()

theorem wellFormed_empty (policy : EmptyPolicy) : WellFormed ⟨.empty, policy⟩ := by
  intro entry hentry
  cases hentry

/-- A rule that an owner puts into the book was read from a text, so its operands passed the
    check. -/
theorem WellFormed.serve (h : registry.WellFormed) (request : Request) :
    (registry.serve request).value.2.WellFormed := by
  obtain heq | ⟨action, hallows, -, heq⟩ := registry.serve_eq_or_after request
  · rw [heq]
    exact h
  · rw [heq]
    obtain ⟨id, now, hchanged, -, hnow⟩ := hallows.changedAt
    intro entry hentry
    rw [RuleBook.mem_entries_iff, hchanged entry.id] at hentry
    split at hentry
    next =>
      obtain ⟨-, text, hparse⟩ := hnow entry hentry
      exact Rule.check_of_parse hparse
    next => exact h entry (RuleBook.mem_entries_iff.mpr hentry)

theorem WellFormed.serveAll (h : registry.WellFormed) (requests : List Request) :
    (registry.serveAll requests).value.2.WellFormed := by
  induction requests generalizing registry with
  | nil => exact h
  | cons request rest ih => exact ih (h.serve request)

theorem policy_serveAll (registry : Registry) (requests : List Request) :
    (registry.serveAll requests).value.2.policy = registry.policy := by
  induction requests generalizing registry with
  | nil => rfl
  | cons request rest ih => exact (ih _).trans (registry.policy_serve request)

/-! ### Checking well-formed rules -/

/-- A check of some rules lacks numbers when the policy rejects texts without digits, the text is
    one, and one of the rules asks for its numbers. -/
def LacksNumbers (policy : EmptyPolicy) (entries : List Entry) (text : String) : Prop :=
  policy = .reject ∧ hasDigit text = false ∧ ∃ entry ∈ entries, entry.rule.readsNumbers = true

/-- What a single rule of an owner comes to, told with its id. -/
theorem WellFormed.outcome_eq_error_iff (h : registry.WellFormed) {entry : Entry}
    (hentry : entry ∈ registry.rulesOf owner) {refusal : Refusal} :
    (Rule.checkText registry.policy text entry.rule).value.mapError (.notEvaluable entry.id) =
        .error refusal ↔
      refusal = .notEvaluable entry.id .noNumbers ∧ LacksNumbers registry.policy [entry] text := by
  obtain ⟨hleft, hright⟩ := h entry (List.mem_of_mem_filter hentry)
  have hfails := @Rule.value_checkText_eq_error_iff registry.policy text entry.rule hleft hright
  simp only [LacksNumbers, List.mem_singleton, exists_eq_left]
  cases hvalue : (Rule.checkText registry.policy text entry.rule).value with
  | ok verdict =>
    constructor
    · intro herror
      cases herror
    · rintro ⟨-, hlacks⟩
      have herror := hfails.mpr ⟨rfl, hlacks⟩
      rw [hvalue] at herror
      cases herror
  | error cause =>
    obtain ⟨rfl, hlacks⟩ := hfails.mp hvalue
    rw [mapError_error, Except.error.injEq]
    constructor
    · rintro rfl
      exact ⟨rfl, hlacks⟩
    · rintro ⟨rfl, -⟩
      rfl

theorem WellFormed.exists_outcome_eq_ok (h : registry.WellFormed) {entry : Entry}
    (hentry : entry ∈ registry.rulesOf owner)
    (hnumbers : ¬LacksNumbers registry.policy [entry] text) :
    ∃ verdict, (Rule.checkText registry.policy text entry.rule).value.mapError
      (Refusal.notEvaluable entry.id) = .ok verdict := by
  cases hvalue : (Rule.checkText registry.policy text entry.rule).value.mapError
    (Refusal.notEvaluable entry.id) with
  | ok verdict => exact ⟨verdict, rfl⟩
  | error refusal => exact absurd ((h.outcome_eq_error_iff hentry).mp hvalue).2 hnumbers

/-- Where no numbers are lacking, every rule gives a verdict. -/
theorem WellFormed.check_eq_ok (h : registry.WellFormed)
    (hnumbers : ¬LacksNumbers registry.policy (registry.rulesOf owner) text) :
    ∃ verdicts, (registry.check owner text).value = .ok verdicts := by
  refine (registry.collects_check owner text).exists_ok fun outcome houtcome => ?_
  obtain ⟨entry, hentry, rfl⟩ := List.mem_map.mp houtcome
  refine h.exists_outcome_eq_ok hentry fun hlacks => hnumbers ?_
  obtain ⟨hpolicy, hdigit, _, hmem, hreads⟩ := hlacks
  rw [List.mem_singleton.mp hmem] at hreads
  exact ⟨hpolicy, hdigit, entry, hentry, hreads⟩

/-- The first of an owner's rules that asks for numbers is the oldest one that does, since the
    rules stand in the order of their ids. -/
theorem exists_oldest_reader
    (h : ∃ entry ∈ registry.rulesOf owner, entry.rule.readsNumbers = true) :
    ∃ before oldest after, registry.rulesOf owner = before ++ oldest :: after ∧
      (∀ entry ∈ before, entry.rule.readsNumbers = false) ∧ oldest.rule.readsNumbers = true ∧
      ∀ entry ∈ registry.rulesOf owner, entry.rule.readsNumbers = true → oldest.id ≤ entry.id := by
  obtain ⟨oldest, hfind⟩ : ∃ oldest,
      (registry.rulesOf owner).find? (fun entry => entry.rule.readsNumbers) = some oldest := by
    rw [← Option.isSome_iff_exists, List.find?_isSome]
    exact h
  obtain ⟨hreads, before, after, hsplit, hbefore⟩ := List.find?_eq_some_iff_append.mp hfind
  have hbefore : ∀ entry ∈ before, entry.rule.readsNumbers = false := by simpa using hbefore
  refine ⟨before, oldest, after, hsplit, hbefore, hreads, ?_⟩
  intro entry hentry hentryReads
  have hordered : (registry.rulesOf owner).Pairwise _ := registry.book.ownedBy_ordered owner
  rw [hsplit, List.pairwise_append, List.pairwise_cons] at hordered
  rw [hsplit, List.mem_append, List.mem_cons] at hentry
  obtain hentry | rfl | hentry := hentry
  · rw [hbefore entry hentry] at hentryReads
    cases hentryReads
  · exact UInt64.le_refl _
  · exact UInt64.le_of_lt (hordered.2.1.1 entry hentry)

/-- Where numbers are lacking, the rule that is told is the oldest one that asks for them. -/
theorem WellFormed.check_eq_error (h : registry.WellFormed)
    (hlacks : LacksNumbers registry.policy (registry.rulesOf owner) text) :
    ∃ entry ∈ registry.rulesOf owner, entry.rule.readsNumbers = true ∧
      (∀ other ∈ registry.rulesOf owner, other.rule.readsNumbers = true → entry.id ≤ other.id) ∧
      (registry.check owner text).value = .error (.notEvaluable entry.id .noNumbers) := by
  obtain ⟨hpolicy, hdigit, hreaders⟩ := hlacks
  obtain ⟨before, oldest, after, hsplit, hbefore, hreads, holdest⟩ := exists_oldest_reader hreaders
  have hmem : ∀ entry ∈ before ++ [oldest], entry ∈ registry.rulesOf owner := by
    intro entry hentry
    rw [hsplit, List.append_cons]
    exact List.mem_append_left _ hentry
  have hmemOldest := hmem oldest (by simp)
  refine ⟨oldest, hmemOldest, hreads, holdest, ?_⟩
  have hfails := (h.outcome_eq_error_iff hmemOldest).mpr
    ⟨rfl, hpolicy, hdigit, oldest, List.mem_singleton_self oldest, hreads⟩
  have hcollects := registry.collects_check owner text
  rw [hsplit, List.map_append, List.map_cons, hfails] at hcollects
  refine hcollects.eq_error fun outcome houtcome => ?_
  -- the older rules ask for no numbers, so each gives a verdict
  obtain ⟨entry, hentry, rfl⟩ := List.mem_map.mp houtcome
  refine h.exists_outcome_eq_ok (hmem entry (List.mem_append_left _ hentry)) ?_
  rintro ⟨-, -, _, hsingle, hentryReads⟩
  rw [List.mem_singleton.mp hsingle, hbefore entry hentry] at hentryReads
  cases hentryReads

/-- **Held rules can be checked.** Whatever owners ask of a registry that starts empty, all its
    rules have two well-formed operands at any moment.  A check then gives a verdict for each rule
    of the owner, unless the policy rejects the text for its lack of digits and a rule of the owner
    asks for its numbers; it then fails for want of numbers and tells the rule with the smallest id
    that asks for them.  Under the other policy no check ever fails, of one text or of many. -/
theorem held_rules_can_be_checked (policy : EmptyPolicy) (requests : List Request) :
    let registry : Registry := ((⟨.empty, policy⟩ : Registry).serveAll requests).value.2
    (∀ entry ∈ registry.book.entries,
      Operand.wellFormed entry.rule.left = true ∧ Operand.wellFormed entry.rule.right = true) ∧
    (∀ owner text,
      (¬LacksNumbers policy (registry.rulesOf owner) text →
        ∃ verdicts, (registry.check owner text).value = .ok verdicts ∧
          verdicts.length = (registry.rulesOf owner).length) ∧
      (LacksNumbers policy (registry.rulesOf owner) text →
        ∃ entry ∈ registry.rulesOf owner, entry.rule.readsNumbers = true ∧
          (∀ other ∈ registry.rulesOf owner,
            other.rule.readsNumbers = true → entry.id ≤ other.id) ∧
          (registry.check owner text).value = .error (.notEvaluable entry.id .noNumbers))) ∧
    (policy = .zero →
      (∀ owner text, ∃ verdicts, (registry.check owner text).value = .ok verdicts) ∧
      ∀ owner texts, ∃ rows, (registry.checkAll owner texts).value = .ok rows) := by
  intro registry
  have hwf : registry.WellFormed := (wellFormed_empty policy).serveAll requests
  have hpolicy : registry.policy = policy := policy_serveAll _ requests
  rw [← hpolicy]
  refine ⟨?_, ?_, ?_⟩
  · intro entry hentry
    rw [Operand.wellFormed_iff, Operand.wellFormed_iff]
    exact hwf entry hentry
  · intro owner text
    refine ⟨fun hnumbers => ?_, hwf.check_eq_error⟩
    obtain ⟨verdicts, hverdicts⟩ := hwf.check_eq_ok hnumbers
    exact ⟨verdicts, hverdicts, length_of_check_eq_ok hverdicts⟩
  · intro hzero
    have hcheck : ∀ owner text, ∃ verdicts, (registry.check owner text).value = .ok verdicts := by
      intro owner text
      refine hwf.check_eq_ok ?_
      rintro ⟨hreject, -⟩
      rw [hzero] at hreject
      cases hreject
    exact ⟨hcheck, fun owner texts => exists_checkAll_eq_ok fun text _ => hcheck owner text⟩

end Registry

end TextRules
