import TextRules.Proofs.Reduction

namespace TextRules

/-!
# Well-formed operands are expressions

The check of an operand keeps nothing of what it reads.  Run with expressions for results, the same
reduction builds a tree (`Operand.tree`), and what lies on its stack is at every moment what has
been read so far (`written_of_run`).  So an operand that passes the check lists an expression, and
`Reading.run_tokens` gives the converse.

No two expressions have lists of tokens of which one begins the other (`Expr.tokens_append_inj`),
hence the expression of an operand is unique, and an operand that is complete cannot go on.
-/

/-! ### The listing of an expression shows where it ends -/

/-- **Unique readability.** Whatever follows, a list of tokens begins with the tokens of at most
    one expression. -/
theorem Expr.tokens_append_inj {e e' : Expr} {rest rest' : Operand}
    (h : e.tokens ++ rest = e'.tokens ++ rest') : e = e' ∧ rest = rest' := by
  induction e generalizing e' rest rest' with
  | leaf l =>
    cases e' with
    | leaf l' =>
      simp only [tokens, List.cons_append, List.nil_append, List.cons.injEq,
        Token.leaf.injEq] at h
      exact ⟨congrArg Expr.leaf h.1, h.2⟩
    | call f' left' right' => simp [tokens] at h
  | call f left right ihl ihr =>
    cases e' with
    | leaf l' => simp [tokens] at h
    | call f' left' right' =>
      simp only [tokens, List.cons_append, List.append_assoc, List.cons.injEq,
        Token.call.injEq] at h
      obtain ⟨rfl, hargs⟩ := h
      obtain ⟨rfl, hright⟩ := ihl hargs
      obtain ⟨rfl, hrest⟩ := ihr hright
      exact ⟨rfl, hrest⟩

/-- Different expressions have different tokens. -/
theorem Expr.tokens_inj {e e' : Expr} (h : e.tokens = e'.tokens) : e = e' := by
  have happ : e.tokens ++ [] = e'.tokens ++ [] := by rw [h]
  exact (tokens_append_inj happ).1

/-- The tokens of an expression do not go on after those of another. -/
theorem Expr.eq_of_tokens_isPrefix {e e' : Expr} (h : e.tokens <+: e'.tokens) : e = e' := by
  obtain ⟨rest, hrest⟩ := h
  have happ : e.tokens ++ rest = e'.tokens ++ [] := by rw [hrest, List.append_nil]
  exact (tokens_append_inj happ).1

/-! ### The tree that a reduction builds -/

/-- Reads an operand as the expression that it lists. -/
def treeReading : Reading ShapeError Expr where
  leaf l := .ok (.leaf l)
  combine := .call
  badShape := id

/-- The expression that an operand lists. -/
def Operand.tree (tokens : Operand) : Except ShapeError Expr := treeReading.reduce tokens

/-- An expression, read as a tree, gives itself. -/
theorem Expr.result_treeReading (e : Expr) : e.result treeReading = .ok e := by
  induction e with
  | leaf l => rfl
  | call f left right ihl ihr =>
    rw [result_call, ihl, ihr]
    rfl

/-- The tokens that a slot stands for. -/
def Slot.tokens : Slot Combinator Expr → Operand
  | .waiting f => [.call f]
  | .ready e => e.tokens

/-- The tokens that a stack stands for, those at the bottom first. -/
def written (slots : List (Slot Combinator Expr)) : Operand := slots.reverse.flatMap Slot.tokens

@[simp] theorem written_nil : written [] = [] := rfl

@[simp] theorem written_cons (slot : Slot Combinator Expr) (slots : List (Slot Combinator Expr)) :
    written (slot :: slots) = written slots ++ slot.tokens := by
  simp [written]

/-- Settling an expression writes its tokens: folding moves them, but keeps their order. -/
theorem written_of_settle {slots next : List (Slot Combinator Expr)} {e : Expr}
    (h : settle Expr.call slots e = .ok next) : written next = written slots ++ e.tokens := by
  fun_induction settle Expr.call slots e with
  | case1 left f rest e ih =>
    rw [ih h]
    simp [Slot.tokens, Expr.tokens]
  | case2 => cases h
  | case3 slots e =>
    obtain rfl := Except.ok.inj h
    rw [written_cons, Slot.tokens]

/-- A token that is read is written on the stack. -/
theorem written_of_step {slots next : List (Slot Combinator Expr)} {t : Token}
    (h : treeReading.step slots t = .ok next) : written next = written slots ++ [t] := by
  cases t with
  | call f =>
    obtain rfl := Except.ok.inj h
    rw [written_cons, Slot.tokens]
  | leaf l =>
    rw [Reading.step_leaf] at h
    exact written_of_settle ((mapError_id _).symm.trans h)

/-- **The stack holds what has been read**, in the order in which it was read. -/
theorem written_of_run {slots next : List (Slot Combinator Expr)} {tokens : Operand}
    (h : treeReading.run slots tokens = .ok next) : written next = written slots ++ tokens := by
  induction tokens generalizing slots with
  | nil =>
    obtain rfl := Except.ok.inj h
    rw [List.append_nil]
  | cons t rest ih =>
    rw [Reading.run_cons] at h
    cases hstep : treeReading.step slots t with
    | error cause =>
      rw [hstep] at h
      cases h
    | ok mid =>
      rw [hstep] at h
      rw [ih h, written_of_step hstep, List.append_assoc, List.singleton_append]

/-- A stack is finished when one result is all there is on it. -/
theorem finish_eq_ok_iff {P V : Type} {slots : List (Slot P V)} {value : V} :
    finish slots = .ok value ↔ slots = [.ready value] := by
  unfold finish
  split <;> simp_all

/-- An operand reads as a tree exactly if it lists that tree. -/
theorem Operand.tree_eq_ok_iff {tokens : Operand} {e : Expr} :
    Operand.tree tokens = .ok e ↔ e.tokens = tokens := by
  constructor
  · intro h
    rw [Operand.tree, Reading.reduce_eq_bind] at h
    cases hrun : treeReading.run [] tokens with
    | error cause =>
      rw [hrun] at h
      cases h
    | ok slots =>
      rw [hrun] at h
      have hfinish : finish slots = .ok e := (mapError_id _).symm.trans h
      rw [finish_eq_ok_iff.mp hfinish] at hrun
      simpa [Slot.tokens] using written_of_run hrun
  · rintro rfl
    rw [Operand.tree, Reading.reduce_tokens, Expr.result_treeReading]

/-! ### The check -/

/-- The shape of an operand and its tree stand or fall together. -/
theorem treeReading_related_shapeReading :
    Reading.Related Eq (fun _ _ => True) (fun _ => True) treeReading shapeReading where
  leaf _ _ := .ok trivial
  combine _ _ _ _ _ _ _ := trivial
  badShape _ := rfl

/-- An operand passes the check exactly if it lists an expression. -/
theorem Operand.check_eq_ok_iff {tokens : Operand} :
    Operand.check tokens = .ok () ↔ ∃ e : Expr, e.tokens = tokens := by
  have hagree : Agree Eq (fun _ _ => True) (Operand.tree tokens) (Operand.check tokens) :=
    treeReading_related_shapeReading.reduce fun _ _ => trivial
  constructor
  · intro h
    rw [h] at hagree
    obtain ⟨e, htree, -⟩ := hagree.of_ok_right
    exact ⟨e, tree_eq_ok_iff.mp htree⟩
  · rintro ⟨e, he⟩
    rw [tree_eq_ok_iff.mpr he] at hagree
    obtain ⟨⟨⟩, hcheck, -⟩ := hagree.of_ok_left
    exact hcheck

theorem Operand.wellFormed_iff {tokens : Operand} :
    Operand.wellFormed tokens = true ↔ Operand.check tokens = .ok () := by
  unfold Operand.wellFormed
  cases Operand.check tokens <;> simp [Except.isOk, Except.toBool]

/-- **Accepted operands are expressions.** An operand passes the check, and counts as well-formed,
    exactly if it lists an expression in prefix order.  That expression is then the only one, and
    nothing shorter that the operand begins with passes the check. -/
theorem Operand.accepted_iff_lists_expr (tokens : Operand) :
    (Operand.check tokens = .ok () ↔ ∃ e : Expr, e.tokens = tokens) ∧
    (Operand.wellFormed tokens = true ↔ ∃ e : Expr, e.tokens = tokens) ∧
    (∀ e e' : Expr, e.tokens = tokens → e'.tokens = tokens → e = e') ∧
    ∀ before, before <+: tokens → before ≠ tokens →
      Operand.check tokens = .ok () → Operand.check before ≠ .ok () := by
  refine ⟨check_eq_ok_iff, wellFormed_iff.trans check_eq_ok_iff, ?_, ?_⟩
  · intro e e' he he'
    exact Expr.tokens_inj (he.trans he'.symm)
  · intro before hprefix hne hcheck hbefore
    obtain ⟨e, rfl⟩ := check_eq_ok_iff.mp hcheck
    obtain ⟨e', rfl⟩ := check_eq_ok_iff.mp hbefore
    exact hne (congrArg Expr.tokens (Expr.eq_of_tokens_isPrefix hprefix))

end TextRules
