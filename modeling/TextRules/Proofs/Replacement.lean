import TextRules.Proofs.Evaluation
import TextRules.Proofs.Shape

namespace TextRules

/-!
# Parts and their values

An operand that has a result lists an expression, and this result is the recursive one of the
expression (`Reading.reduce_eq_ok_iff`).  As the tokens of an expression do nothing on a stack but
settle its result, a part with a result can be replaced by any other with the same result
(`Reading.reduce_part_congr`), in surroundings of any kind: they may have no value, or no shape.

A number is such a part.  `Operand.part_is_its_value` — a part of an operand can be replaced by the
number that is its value.
-/

namespace Reading

variable {ε V : Type} {r : Reading ε V} {tokens : Operand}

/-! ### What has a result -/

/-- A run goes past a leaf only if the leaf has a result. -/
theorem leaf_eq_ok_of_run {slots next : List (Slot Combinator V)} {l : Leaf}
    (h : r.run slots tokens = .ok next) (hl : .leaf l ∈ tokens) : ∃ value, r.leaf l = .ok value := by
  induction tokens generalizing slots with
  | nil => cases hl
  | cons t rest ih =>
    rw [run_cons] at h
    obtain ⟨mid, hmid, hrest⟩ := bind_eq_ok_iff.mp h
    rcases List.mem_cons.mp hl with rfl | hl
    · rw [step_leaf] at hmid
      obtain ⟨value, hvalue, -⟩ := bind_eq_ok_iff.mp hmid
      exact ⟨value, hvalue⟩
    · exact ih hrest hl

/-- Where the leaves have results, the results on the stack are those of the trees that could be
    built instead. -/
theorem related_treeReading (r : Reading ε V) :
    Related (fun cause fault => cause = r.badShape fault) (fun value e => e.result r = .ok value)
      (fun l => ∃ value, r.leaf l = .ok value) r treeReading where
  leaf l hl := by
    obtain ⟨value, hvalue⟩ := hl
    rw [hvalue]
    exact .ok hvalue
  combine f value left value' right hleft hright := by
    show (Expr.call f left right).result r = _
    rw [Expr.result_call, hleft, hright]
    rfl
  badShape _ := rfl

/-- **Only expressions have results**, and the result is the recursive one. -/
theorem reduce_eq_ok_iff {value : V} :
    r.reduce tokens = .ok value ↔ ∃ e : Expr, e.tokens = tokens ∧ e.result r = .ok value := by
  constructor
  · intro h
    have hread : ∀ l, Token.leaf l ∈ tokens → ∃ value, r.leaf l = .ok value := by
      rw [reduce_eq_bind] at h
      obtain ⟨slots, hslots, -⟩ := bind_eq_ok_iff.mp h
      exact fun l hl => leaf_eq_ok_of_run hslots hl
    have hagree := r.related_treeReading.reduce hread
    rw [h] at hagree
    obtain ⟨e, htree, hresult⟩ := hagree.of_ok_left
    exact ⟨e, Operand.tree_eq_ok_iff.mp htree, hresult⟩
  · rintro ⟨e, rfl, hresult⟩
    rw [reduce_tokens, hresult]

/-! ### Parts with the same result -/

/-- A part with a result settles this result, whatever lies on the stack. -/
theorem run_of_reduce_eq_ok {part : Operand} {value : V} (h : r.reduce part = .ok value)
    (slots : List (Slot Combinator V)) :
    r.run slots part = (settle r.combine slots value).mapError r.badShape := by
  obtain ⟨e, rfl, hresult⟩ := reduce_eq_ok_iff.mp h
  rw [run_tokens, hresult]
  rfl

/-- **Parts with the same result can be exchanged.** What stands before and behind them may be
    anything. -/
theorem reduce_part_congr {part other : Operand} {value : V} (hpart : r.reduce part = .ok value)
    (hother : r.reduce other = .ok value) (before after : Operand) :
    r.reduce (before ++ part ++ after) = r.reduce (before ++ other ++ after) := by
  have hrun : r.run [] (before ++ part ++ after) = r.run [] (before ++ other ++ after) := by
    simp only [run_append, run_of_reduce_eq_ok hpart, run_of_reduce_eq_ok hother]
  rw [reduce_eq_bind, reduce_eq_bind, hrun]

end Reading

namespace Operand

/-- An operand with a value passes the check. -/
theorem check_of_value_eq_ok {s : Subject} {tokens : Operand} {v : Value}
    (h : Operand.value s tokens = .ok v) : Operand.check tokens = .ok () := by
  obtain ⟨e, he, -⟩ := Reading.reduce_eq_ok_iff.mp h
  exact check_eq_ok_iff.mpr ⟨e, he⟩

/-- **A part stands for its value.** Let some tokens have a value.  Between any other tokens, they
    can be replaced by the number that is their value: the whole has the same value or fails for
    the same cause, and the check has the same verdict. -/
theorem part_is_its_value {s : Subject} {part : Operand} {v : Value}
    (h : Operand.value s part = .ok v) (before after : Operand) :
    Operand.value s (before ++ part ++ after) =
      Operand.value s (before ++ [.leaf (.number v)] ++ after) ∧
    Operand.check (before ++ part ++ after) =
      Operand.check (before ++ [.leaf (.number v)] ++ after) :=
  ⟨Reading.reduce_part_congr h rfl before after,
    Reading.reduce_part_congr (check_of_value_eq_ok h) rfl before after⟩

/-- The surroundings may be beyond repair: here the part stands behind a complete operand, and a
    statistic that is missing follows. -/
theorem part_is_its_value_past_end :
    Operand.value ⟨"a12", some 12, none⟩ [.call .max, .leaf .total, .leaf (.count "a")] = .ok 12 ∧
    Operand.value ⟨"a12", some 12, none⟩ [.leaf (.number 1), .call .sum, .call .max, .leaf .total,
        .leaf (.count "a"), .leaf .average] =
      Operand.value ⟨"a12", some 12, none⟩ [.leaf (.number 1), .call .sum, .leaf (.number 12),
        .leaf .average] ∧
    Operand.check [.leaf (.number 1), .call .sum, .call .max, .leaf .total, .leaf (.count "a"),
        .leaf .average] =
      Operand.check [.leaf (.number 1), .call .sum, .leaf (.number 12), .leaf .average] := by
  have hvalue : Operand.value ⟨"a12", some 12, none⟩
      [.call .max, .leaf .total, .leaf (.count "a")] = .ok 12 := by decide +kernel
  exact ⟨hvalue, part_is_its_value hvalue [.leaf (.number 1), .call .sum] [.leaf .average]⟩

end Operand

end TextRules
