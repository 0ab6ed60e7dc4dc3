import TextRules.Proofs.Shape

namespace TextRules

/-!
# Running balances

The check of an operand works on a stack, yet its verdict can be told from a running number: one up
for each leaf, one down for each function.

* `Settled` — between two tokens, no result on the stack lies directly on another one.
* `Settled.run` — every run keeps its stack settled, and the stack has as many more results than
  functions as the tokens have leaves.
* `Settled.run_eq_surplusOperand_iff` — a run finds an operand too many exactly where the balance
  comes to two.
* `Operand.exists_expr_isPrefix` — where the balance comes to one, a whole expression has been read.
* `Operand.verdict_follows_balances` — the four verdicts, each by the balances alone.
-/

/-- How many more leaves than functions there are among some tokens. -/
def Operand.balance (tokens : Operand) : Int :=
  tokens.countP Token.isLeaf - tokens.countP fun t => !t.isLeaf

theorem Operand.balance_append (tokens rest : Operand) :
    balance (tokens ++ rest) = balance tokens + balance rest := by
  simp only [balance, List.countP_append]
  omega

theorem Operand.balance_cons (t : Token) (rest : Operand) :
    balance (t :: rest) = balance [t] + balance rest :=
  balance_append [t] rest

/-! ### Settled stacks -/

section Stack

variable {P V : Type} {slots next : List (Slot P V)} {combine : P → V → V → V} {value : V}

/-- A stack, given from the top, on which no result lies on another one: a result lies on a function
    or at the bottom. -/
inductive Settled : List (Slot P V) → Prop
  | empty : Settled []
  | bottom (v : V) : Settled [.ready v]
  | waiting (f : P) {slots : List (Slot P V)} (h : Settled slots) : Settled (.waiting f :: slots)
  | ready (v : V) (f : P) {slots : List (Slot P V)} (h : Settled slots) :
      Settled (.ready v :: .waiting f :: slots)

/-- How many more results than waiting functions there are on a stack. -/
def Slot.balance : List (Slot P V) → Int
  | [] => 0
  | .waiting _ :: rest => balance rest - 1
  | .ready _ :: rest => balance rest + 1

/-- Every result but the one at the bottom has a function below it. -/
theorem Settled.balance_le_one (h : Settled slots) : Slot.balance slots ≤ 1 := by
  induction h with
  | empty => exact Int.zero_le_ofNat 1
  | bottom v => exact Int.le_refl 1
  | waiting f _ ih =>
    rw [Slot.balance]
    omega
  | ready v f _ ih =>
    rw [Slot.balance, Slot.balance]
    omega

/-- With one result more than there are functions, there is a result at the bottom. -/
theorem Settled.exists_bottom (h : Settled slots) (hbalance : Slot.balance slots = 1) :
    ∃ above v, slots = above ++ [.ready v] := by
  induction h with
  | empty => cases hbalance
  | bottom v => exact ⟨[], v, rfl⟩
  | waiting f h _ =>
    have hle := h.balance_le_one
    rw [Slot.balance] at hbalance
    omega
  | ready v f _ ih =>
    rw [Slot.balance, Slot.balance, Int.sub_add_cancel] at hbalance
    obtain ⟨above, bottom, rfl⟩ := ih hbalance
    exact ⟨.ready v :: .waiting f :: above, bottom, rfl⟩

/-- Settling one more result leaves a settled stack, and folding does not change the balance. -/
theorem Settled.settle (h : Settled slots) (hnext : settle combine slots value = .ok next) :
    Settled next ∧ Slot.balance next = Slot.balance slots + 1 := by
  induction h generalizing value with
  | empty =>
    obtain rfl := Except.ok.inj hnext
    exact ⟨.bottom value, rfl⟩
  | bottom v => cases hnext
  | waiting f h _ =>
    obtain rfl := Except.ok.inj hnext
    exact ⟨.ready value f h, rfl⟩
  | ready v f _ ih =>
    rw [settle_ready_waiting] at hnext
    obtain ⟨hsettled, hbalance⟩ := ih hnext
    rw [Slot.balance, Slot.balance, Int.sub_add_cancel]
    exact ⟨hsettled, hbalance⟩

/-- A result is one too many exactly if there is one more than there are functions already. -/
theorem Settled.settle_eq_surplusOperand_iff (h : Settled slots) :
    TextRules.settle combine slots value = .error .surplusOperand ↔ Slot.balance slots = 1 := by
  induction h generalizing value with
  | empty => exact ⟨nofun, nofun⟩
  | bottom v => exact ⟨fun _ => rfl, fun _ => rfl⟩
  | waiting f h _ =>
    have hle := h.balance_le_one
    constructor
    · nofun
    · intro hbalance
      rw [Slot.balance] at hbalance
      omega
  | ready v f _ ih =>
    rw [settle_ready_waiting, Slot.balance, Slot.balance, Int.sub_add_cancel]
    exact ih

end Stack

/-! ### Runs -/

section Run

variable {ε V : Type} {r : Reading ε V} {tokens : Operand}

/-- One token keeps a stack settled and counts for it as much as for the tokens. -/
theorem Settled.step {slots next : List (Slot Combinator V)} {t : Token} (h : Settled slots)
    (hnext : r.step slots t = .ok next) :
    Settled next ∧ Slot.balance next = Slot.balance slots + Operand.balance [t] := by
  cases t with
  | call f =>
    obtain rfl := Except.ok.inj hnext
    exact ⟨.waiting f h, rfl⟩
  | leaf l =>
    rw [Reading.step_leaf] at hnext
    obtain ⟨value, -, hsettle⟩ := bind_eq_ok_iff.mp hnext
    exact h.settle (mapError_eq_ok_iff.mp hsettle)

/-- **A run keeps its stack settled**, and the balance of the stack goes with that of the tokens. -/
theorem Settled.run {slots next : List (Slot Combinator V)} (h : Settled slots)
    (hnext : r.run slots tokens = .ok next) :
    Settled next ∧ Slot.balance next = Slot.balance slots + Operand.balance tokens := by
  induction tokens generalizing slots with
  | nil =>
    obtain rfl := Except.ok.inj hnext
    exact ⟨h, (Int.add_zero _).symm⟩
  | cons t rest ih =>
    rw [Reading.run_cons] at hnext
    obtain ⟨mid, hmid, hrest⟩ := bind_eq_ok_iff.mp hnext
    obtain ⟨hsettled, hbalance⟩ := h.step hmid
    obtain ⟨hsettledNext, hbalanceNext⟩ := ih hsettled hrest
    refine ⟨hsettledNext, ?_⟩
    rw [hbalanceNext, hbalance, Operand.balance_cons t rest, Int.add_assoc]

/-- **A run finds an operand too many where the balance comes to two.** -/
theorem Settled.run_eq_surplusOperand_iff {slots : List (Slot Combinator Unit)}
    (h : Settled slots) :
    shapeReading.run slots tokens = .error .surplusOperand ↔
      ∃ before, before <+: tokens ∧ Slot.balance slots + Operand.balance before = 2 := by
  have hle := h.balance_le_one
  -- nothing has been read at first, and the balance is one at most
  have hempty : Slot.balance slots + Operand.balance [] ≠ 2 := by
    show Slot.balance slots + 0 ≠ 2
    omega
  induction tokens generalizing slots with
  | nil =>
    constructor
    · nofun
    · rintro ⟨before, hbefore, hbalance⟩
      rw [List.prefix_nil.mp hbefore] at hbalance
      exact absurd hbalance hempty
  | cons t rest ih =>
    have hcons : (∃ before, before <+: t :: rest ∧
        Slot.balance slots + Operand.balance before = 2) ↔
          ∃ before, before <+: rest ∧
            Slot.balance slots + Operand.balance [t] + Operand.balance before = 2 := by
      constructor
      · rintro ⟨before, hbefore, hbalance⟩
        obtain rfl | ⟨tail, rfl, htail⟩ := List.prefix_cons_iff.mp hbefore
        · exact absurd hbalance hempty
        · rw [Operand.balance_cons, ← Int.add_assoc] at hbalance
          exact ⟨tail, htail, hbalance⟩
      · rintro ⟨tail, htail, hbalance⟩
        rw [Int.add_assoc, ← Operand.balance_cons] at hbalance
        exact ⟨t :: tail, List.cons_prefix_cons.mpr ⟨rfl, htail⟩, hbalance⟩
    rw [hcons, Reading.run_cons]
    cases hstep : shapeReading.step slots t with
    | ok mid =>
      obtain ⟨hsettled, hbalance⟩ := h.step hstep
      rw [← hbalance]
      have hmid := hsettled.balance_le_one
      refine ih hsettled hmid ?_
      show Slot.balance mid + 0 ≠ 2
      omega
    | error cause =>
      -- only a leaf is refused, and it brings the balance to two
      cases t with
      | call f => cases hstep
      | leaf l =>
        rw [shapeReading_step_leaf] at hstep
        obtain rfl := eq_surplusOperand_of_settle hstep
        have hone := h.settle_eq_surplusOperand_iff.mp hstep
        have hleaf : Operand.balance [.leaf l] = 1 := rfl
        refine ⟨fun _ => ⟨[], List.nil_prefix, ?_⟩, fun _ => rfl⟩
        rw [hone, hleaf]
        rfl

end Run

/-! ### Operands -/

theorem finish_eq_noTokens_iff {P V : Type} {slots : List (Slot P V)} :
    finish slots = .error .noTokens ↔ slots = [] := by
  unfold finish
  split <;> simp_all

namespace Operand

variable {tokens : Operand}

/-- The check finds an operand too many where the balance comes to two. -/
theorem check_eq_surplusOperand_iff_balance :
    Operand.check tokens = .error .surplusOperand ↔
      ∃ before, before <+: tokens ∧ balance before = 2 := by
  rw [check_eq_surplusOperand_iff, Settled.empty.run_eq_surplusOperand_iff]
  simp only [Slot.balance, Int.zero_add]

/-- Unless there is an operand too many, a tree can be built from the tokens up to their end. -/
theorem exists_trees (h : Operand.check tokens ≠ .error .surplusOperand) :
    ∃ trees, treeReading.run [] tokens = .ok trees := by
  rw [ne_eq, check_eq_surplusOperand_iff] at h
  have hagree : Agree Eq (List.Forall₂ (Slot.Rel fun _ _ => True)) (treeReading.run [] tokens)
      (shapeReading.run [] tokens) :=
    treeReading_related_shapeReading.run (fun _ _ => trivial) .nil
  cases hrun : shapeReading.run [] tokens with
  | error cause =>
    obtain rfl := eq_surplusOperand_of_run hrun
    exact absurd hrun h
  | ok shapes =>
    rw [hrun] at hagree
    obtain ⟨trees, htrees, -⟩ := hagree.of_ok_right
    exact ⟨trees, htrees⟩

/-- **Where the balance comes to one, a whole expression has been read.**  It stays at the bottom of
    the stack, whatever comes after it. -/
theorem exists_expr_isPrefix (h : Operand.check tokens ≠ .error .surplusOperand)
    (hbalance : balance tokens = 1) : ∃ e : Expr, e.tokens <+: tokens := by
  obtain ⟨trees, htrees⟩ := exists_trees h
  obtain ⟨hsettled, htotal⟩ := Settled.empty.run htrees
  rw [Slot.balance, Int.zero_add, hbalance] at htotal
  obtain ⟨above, e, rfl⟩ := hsettled.exists_bottom htotal
  have hwritten := written_of_run htrees
  refine ⟨e, written above, ?_⟩
  simpa [written, Slot.tokens] using hwritten

end Operand

/-- An expression has one leaf more than it has functions. -/
theorem Expr.balance_tokens (e : Expr) : Operand.balance e.tokens = 1 := by
  have hrun : treeReading.run [] e.tokens = .ok [.ready e] := by
    rw [Reading.run_tokens, result_treeReading]
    rfl
  have hbalance := (Settled.empty.run hrun).2
  rw [Slot.balance, Int.zero_add] at hbalance
  exact hbalance.symm

namespace Operand

variable {tokens : Operand}

/-- Before the end of an expression, there are no more leaves than functions. -/
theorem balance_le_zero_of_isPrefix {e : Expr} {before : Operand} (h : before <+: e.tokens)
    (hne : before ≠ e.tokens) : balance before ≤ 0 := by
  have hcheck : Operand.check before ≠ .error .surplusOperand := by
    intro hsurplus
    obtain ⟨after, hafter⟩ := h
    have hwhole := check_append_of_surplusOperand hsurplus after
    rw [hafter, check_eq_ok_iff.mpr ⟨e, rfl⟩] at hwhole
    cases hwhole
  obtain ⟨trees, htrees⟩ := exists_trees hcheck
  obtain ⟨hsettled, hbalance⟩ := Settled.empty.run htrees
  have hle := hsettled.balance_le_one
  rw [hbalance, Slot.balance, Int.zero_add] at hle
  -- with a balance of one, the expression would be over already
  have hone : balance before ≠ 1 := by
    intro hone
    obtain ⟨e', he'⟩ := exists_expr_isPrefix hcheck hone
    obtain rfl := Expr.eq_of_tokens_isPrefix (he'.trans h)
    exact hne (h.eq_of_length_le he'.length_le)
  omega

/-- An operand is accepted exactly if its balance is one at its end and not above zero before. -/
theorem check_eq_ok_iff_balance : Operand.check tokens = .ok () ↔ tokens ≠ [] ∧
    balance tokens = 1 ∧ ∀ before, before <+: tokens → before ≠ tokens → balance before ≤ 0 := by
  constructor
  · intro h
    obtain ⟨e, rfl⟩ := check_eq_ok_iff.mp h
    exact ⟨e.tokens_ne_nil, e.balance_tokens, fun before => balance_le_zero_of_isPrefix⟩
  · rintro ⟨-, htotal, hbefore⟩
    have hcheck : Operand.check tokens ≠ .error .surplusOperand := by
      rw [ne_eq, check_eq_surplusOperand_iff_balance]
      rintro ⟨before, hprefix, htwo⟩
      by_cases hall : before = tokens
      · rw [hall] at htwo
        omega
      · have hle := hbefore before hprefix hall
        omega
    -- the expression that has been read cannot end before the tokens do
    obtain ⟨e, he⟩ := exists_expr_isPrefix hcheck htotal
    have hall : e.tokens = tokens := by
      by_contra hpart
      have hle := hbefore e.tokens he hpart
      rw [e.balance_tokens] at hle
      omega
    exact check_eq_ok_iff.mpr ⟨e, hall⟩

/-- Whatever is read leaves something on the stack. -/
theorem check_eq_noTokens_iff : Operand.check tokens = .error .noTokens ↔ tokens = [] := by
  constructor
  · intro h
    have hsurplus : Operand.check tokens ≠ .error .surplusOperand := by
      rw [h]
      nofun
    have hagree : Agree Eq (fun _ _ => True) (Operand.tree tokens) (Operand.check tokens) :=
      treeReading_related_shapeReading.reduce fun _ _ => trivial
    rw [h] at hagree
    obtain ⟨_, htree, rfl⟩ := hagree.of_error_right
    obtain ⟨trees, htrees⟩ := exists_trees hsurplus
    rw [Operand.tree, Reading.reduce_eq_bind, htrees] at htree
    have hfinish : finish trees = .error .noTokens := (mapError_id _).symm.trans htree
    rw [finish_eq_noTokens_iff.mp hfinish] at htrees
    exact (written_of_run htrees).symm
  · rintro rfl
    rfl

/-- **The verdict follows the balances.** The check says that there are no tokens exactly if there
    are none; it finds an operand too many if the balance comes to two somewhere; it accepts tokens
    whose balance is one at their end and never above zero before it; and in every other case it
    finds an operand missing. -/
theorem verdict_follows_balances (tokens : Operand) :
    let overfull := ∃ before, before <+: tokens ∧ balance before = 2
    let complete := balance tokens = 1 ∧
      ∀ before, before <+: tokens → before ≠ tokens → balance before ≤ 0
    (Operand.check tokens = .error .noTokens ↔ tokens = []) ∧
    (Operand.check tokens = .error .surplusOperand ↔ overfull) ∧
    (Operand.check tokens = .ok () ↔ tokens ≠ [] ∧ complete) ∧
    (Operand.check tokens = .error .missingOperand ↔ tokens ≠ [] ∧ ¬overfull ∧ ¬complete) := by
  intro overfull complete
  have hoverfull : Operand.check tokens = .error .surplusOperand ↔ overfull :=
    check_eq_surplusOperand_iff_balance
  have hcomplete : Operand.check tokens = .ok () ↔ tokens ≠ [] ∧ complete := check_eq_ok_iff_balance
  refine ⟨check_eq_noTokens_iff, hoverfull, hcomplete, ?_⟩
  have hmissing : Operand.check tokens = .error .missingOperand ↔
      ¬Operand.check tokens = .error .noTokens ∧ ¬Operand.check tokens = .error .surplusOperand ∧
        ¬Operand.check tokens = .ok () := by
    rcases Operand.check tokens with (_ | _ | _) | ⟨⟩ <;> simp
  rw [hmissing, check_eq_noTokens_iff, hoverfull, hcomplete]
  constructor
  · rintro ⟨hne, hnot, hincomplete⟩
    exact ⟨hne, hnot, fun hall => hincomplete ⟨hne, hall⟩⟩
  · rintro ⟨hne, hnot, hincomplete⟩
    exact ⟨hne, hnot, fun hall => hincomplete hall.2⟩

/- A balance of one at the end is not enough: here it was one before. -/
example : balance [.leaf (.number 1), .call .max, .leaf (.number 2)] = 1 ∧
    Operand.check [.leaf (.number 1), .call .max, .leaf (.number 2)] = .error .missingOperand :=
  ⟨rfl, rfl⟩

end Operand

end TextRules
