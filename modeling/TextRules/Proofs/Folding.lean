import TextRules.Evaluation
import TextRules.Proofs.Balances

namespace TextRules

/-!
# Rounds of folding

Settling a result takes slots off the stack before it is known whether the result has a place there.
This file tells the rounds apart.

* `Folds` — a number of rounds, each of which takes a result and the function below it off the
  stack; `Folds.length_eq` counts the slots.
* `Settled.exists_folds` — from a settled stack the rounds lead to the bottom, to a function that
  still waits for its left result, or to a result that is the last slot.  They never lead to a
  result that lies on another one.
* `Reading.stack_stays_settled` — what the stack looks like after any tokens, and how the next
  result is settled on it.
-/

section Stack

variable {P V : Type} {combine : P → V → V → V} {slots rest : List (Slot P V)} {value result : V}
  {rounds : Nat}

/-- What some rounds of folding do to a stack, which is given from the top, and to the result that
    is to be settled on it.  In each round the function in the second slot combines the result in
    the first slot with the one at hand, and both slots are gone. -/
inductive Folds (combine : P → V → V → V) :
    Nat → List (Slot P V) → V → List (Slot P V) → V → Prop
  | none (slots : List (Slot P V)) (value : V) : Folds combine 0 slots value slots value
  | round (left : V) (f : P) {rounds : Nat} {slots rest : List (Slot P V)} {value result : V}
      (h : Folds combine rounds slots (combine f left value) rest result) :
      Folds combine (rounds + 1) (.ready left :: .waiting f :: slots) value rest result

/-- Each round takes two slots. -/
theorem Folds.length_eq (h : Folds combine rounds slots value rest result) :
    slots.length = 2 * rounds + rest.length := by
  induction h with
  | none slots value => simp
  | round left f _ ih =>
    rw [List.length_cons, List.length_cons, ih]
    omega

/-- What is left is the lower part of the stack. -/
theorem Folds.isSuffix (h : Folds combine rounds slots value rest result) : rest <:+ slots := by
  induction h with
  | none slots value => exact List.suffix_rfl
  | round left f _ ih => exact ih.trans ⟨[.ready left, .waiting f], rfl⟩

/-- The rounds are those of settling. -/
theorem Folds.settle_eq (h : Folds combine rounds slots value rest result) :
    settle combine slots value = settle combine rest result := by
  induction h with
  | none slots value => rfl
  | round left f _ ih => rw [settle_ready_waiting, ih]

/-- From a settled stack, rounds of folding lead to the bottom, to a function, or to a result that
    is the last slot. -/
theorem Settled.exists_folds (h : Settled slots) (combine : P → V → V → V) (value : V) :
    ∃ rounds rest result, Folds combine rounds slots value rest result ∧
      (rest = [] ∨ (∃ f below, rest = .waiting f :: below) ∨ ∃ bottom, rest = [.ready bottom]) := by
  induction h generalizing value with
  | empty => exact ⟨0, [], value, .none [] value, .inl rfl⟩
  | bottom v => exact ⟨0, [.ready v], value, .none _ value, .inr (.inr ⟨v, rfl⟩)⟩
  | @waiting f slots _ _ =>
    exact ⟨0, .waiting f :: slots, value, .none _ value, .inr (.inl ⟨f, slots, rfl⟩)⟩
  | ready v f _ ih =>
    obtain ⟨rounds, rest, result, hfolds, hrest⟩ := ih (combine f v value)
    exact ⟨rounds + 1, rest, result, .round v f hfolds, hrest⟩

/-- A stack is settled exactly if the slot right below each result is a function, unless the result
    is the last slot. -/
theorem settled_iff_below_ready : Settled slots ↔ ∀ v below, .ready v :: below <:+ slots →
    below = [] ∨ ∃ f lower, below = .waiting f :: lower := by
  constructor
  · intro h v below hbelow
    induction h with
    | empty => simp at hbelow
    | bottom w =>
      obtain heq | hbelow := List.suffix_cons_iff.mp hbelow
      · exact .inl (List.cons.inj heq).2
      · simp at hbelow
    | waiting f _ ih =>
      obtain heq | hbelow := List.suffix_cons_iff.mp hbelow
      · cases heq
      · exact ih hbelow
    | ready w f _ ih =>
      obtain heq | hbelow := List.suffix_cons_iff.mp hbelow
      · exact .inr ⟨f, _, (List.cons.inj heq).2⟩
      · obtain heq | hbelow := List.suffix_cons_iff.mp hbelow
        · cases heq
        · exact ih hbelow
  · intro h
    induction slots with
    | nil => exact .empty
    | cons slot lower ih =>
      have hlower : Settled lower := ih fun v below hbelow =>
        h v below (hbelow.trans (List.suffix_cons slot lower))
      cases slot with
      | waiting f => exact .waiting f hlower
      | ready v =>
        obtain rfl | ⟨f, rest, rfl⟩ := h v lower List.suffix_rfl
        · exact .bottom v
        · cases hlower with
          | waiting _ hrest => exact .ready v f hrest

end Stack

namespace Reading

variable {ε V : Type}

/-- **The stack stays settled.** After any tokens that were read without a failure, the stack has,
    from its bottom, at most one result and then functions, each with at most one result on it:
    right below a result lies a function, unless nothing does.  One more result is settled in rounds
    of folding, at most half as many as there are slots.  They end at the bottom or at a function,
    and what they come to is put there; or they end at a result that is the last slot of the stack,
    and then there is one too many.  They never end at a result that lies on another one. -/
theorem stack_stays_settled (r : Reading ε V) {tokens : Operand}
    {slots : List (Slot Combinator V)} (h : r.run [] tokens = .ok slots) :
    Settled slots ∧
    (∀ v below, .ready v :: below <:+ slots →
      below = [] ∨ ∃ f lower, below = .waiting f :: lower) ∧
    ∀ value, ∃ rounds rest result, Folds r.combine rounds slots value rest result ∧
      2 * rounds ≤ slots.length ∧ rest <:+ slots ∧
      ((rest = [] ∨ ∃ f below, rest = .waiting f :: below) ∧
          settle r.combine slots value = .ok (.ready result :: rest) ∨
        (∃ bottom, rest = [.ready bottom]) ∧
          settle r.combine slots value = .error .surplusOperand) := by
  have hsettled : Settled slots := (Settled.empty.run h).1
  refine ⟨hsettled, settled_iff_below_ready.mp hsettled, fun value => ?_⟩
  obtain ⟨rounds, rest, result, hfolds, hrest⟩ := hsettled.exists_folds r.combine value
  have hlength := hfolds.length_eq
  refine ⟨rounds, rest, result, hfolds, by omega, hfolds.isSuffix, ?_⟩
  rw [hfolds.settle_eq]
  obtain rfl | ⟨f, below, rfl⟩ | ⟨bottom, rfl⟩ := hrest
  · exact .inl ⟨.inl rfl, rfl⟩
  · exact .inl ⟨.inr ⟨f, below, rfl⟩, rfl⟩
  · exact .inr ⟨⟨bottom, rfl⟩, rfl⟩

/-- Behind a complete operand another one can be built up, until it is complete too. -/
theorem stack_stays_settled_past_end :
    let r := valueReading ⟨"", none, none⟩
    let slots : List (Slot Combinator Value) := [.ready 2, .waiting .max, .ready 1]
    r.run [] [.leaf (.number 1), .call .max, .leaf (.number 2)] = .ok slots ∧ Settled slots ∧
    ∃ result, Folds r.combine 1 slots 3 [.ready 1] result ∧
      settle r.combine slots 3 = .error .surplusOperand := by
  intro r slots
  have hrun : r.run [] [.leaf (.number 1), .call .max, .leaf (.number 2)] = .ok slots := rfl
  have hsurplus : settle r.combine slots 3 = .error .surplusOperand := rfl
  obtain ⟨hsettled, -, hpush⟩ := stack_stays_settled r hrun
  obtain ⟨rounds, rest, result, hfolds, -, hrest, hok | ⟨⟨bottom, rfl⟩, -⟩⟩ := hpush 3
  · rw [hsurplus] at hok
    cases hok.2
  · obtain rfl : rounds = 1 := by
      have hlength : 3 = 2 * rounds + 1 := hfolds.length_eq
      omega
    obtain rfl : bottom = 1 := by
      have hlast := hrest.getLast (by simp)
      simpa [slots] using hlast
    exact ⟨hrun, hsettled, result, hfolds, hsurplus⟩

end Reading

end TextRules
