import TextRules.Proofs.Arithmetic
import TextRules.Proofs.Checking
import TextRules.Proofs.Numbers
import TextRules.Proofs.Occurrences
import TextRules.Proofs.Shape
import TextRules.Proofs.Words

namespace TextRules

/-!
# The value of an operand is exact

Values are 64-bit integers, but for operands that were read they stand for natural numbers: every
leaf has a value that is not negative, and no combinator makes a negative value out of such values.
This file has three consequences, put together in `Operand.value_exact`.

* No value on the stack is negative, at any moment.
* The steps of the evaluation can be checked one by one (`checkedReading`), and none is refused: no
  sum, quotient or rest is out of range.
* The value is what the expression means for natural numbers (`Expr.exact`).  There the sum of the
  numbers in a text, and every sum of two values, is held back at the largest value; nothing else
  is.
-/

/-! ### What an operand means for natural numbers -/

/-- The number that a leaf stands for on a text. -/
def Leaf.exact (text : String) : Leaf → Nat
  | .number value => value.toInt.toNat
  | .count needle => positions needle.toList text.toList
  | .total => min Value.limit (numbersIn text).sum
  | .average => min Value.limit (numbersIn text).sum / (numbersIn text).length

/-- The number that an expression stands for on a text. -/
def Expr.exact (text : String) (e : Expr) : Nat := e.fold Combinator.exact (Leaf.exact text)

/-- Reads the value of an operand step by step: a step of a combinator whose exact result is out of
    range leaves no value. -/
def checkedReading (s : Subject) : Reading EvalError (Option Value) where
  leaf l := (l.value s).map some
  combine f left right := left.bind fun a => right.bind fun b => f.applyChecked? a b
  badShape := .malformed

/-! ### Leaves -/

section Leaf

variable {policy : EmptyPolicy} {text : String} {l : Leaf} {v : Value}

theorem available_eq_ok_iff {statistic : Option Value} :
    available statistic = .ok v ↔ statistic = some v := by
  cases statistic <;> simp [available]

/-- The value of a leaf is the number that it stands for.  A count is held inside the range, which
    changes nothing on a text that is not longer than that. -/
theorem Leaf.toInt_value (hproper : (Token.leaf l).Proper)
    (hv : l.value (Subject.ofText policy text) = .ok v) :
    0 ≤ v.toInt ∧ (text.length ≤ Value.limit → v.toInt = l.exact text) := by
  cases l with
  | number value =>
    obtain rfl := Except.ok.inj hv
    have hnonneg : 0 ≤ value.toInt := hproper
    exact ⟨hnonneg, fun _ => (Int.toNat_of_nonneg hnonneg).symm⟩
  | count needle =>
    obtain rfl := Except.ok.inj hv
    rw [Subject.text_ofText, occurrences_eq_positions hproper, Value.toInt_clamp]
    -- there are no more places than characters
    have hle := positions_le_length needle.toList text.toList
    rw [String.length_toList] at hle
    simp only [Leaf.exact, Value.smallest, Value.largest, Value.limit]
    omega
  | total =>
    have hvalue := Subject.toInt_total_ofText (available_eq_ok_iff.mp hv)
    rw [hvalue]
    exact ⟨Int.natCast_nonneg _, fun _ => rfl⟩
  | average =>
    have hvalue := Subject.toInt_average_ofText (available_eq_ok_iff.mp hv)
    rw [hvalue]
    exact ⟨Int.natCast_nonneg _, fun _ => rfl⟩

end Leaf

/-! ### Expressions -/

theorem Expr.leaf_mem_tokens {e : Expr} {l : Leaf} (h : l ∈ e.leaves) : .leaf l ∈ e.tokens := by
  induction e with
  | leaf l' =>
    obtain rfl := List.mem_singleton.mp h
    exact List.mem_singleton_self _
  | call f left right ihl ihr =>
    refine List.mem_cons_of_mem _ (List.mem_append.mpr ?_)
    exact (List.mem_append.mp h).imp ihl ihr

/-- Where the leaves of an expression have the values that they stand for, so has the expression. -/
theorem Expr.toInt_value {s : Subject} {text : String} {e : Expr}
    (hleaf : ∀ l ∈ e.leaves, ∀ v, l.value s = .ok v → v.toInt = l.exact text) {v : Value}
    (hv : e.value s = .ok v) : v.toInt = e.exact text := by
  induction e generalizing v with
  | leaf l => exact hleaf l (List.mem_singleton_self l) v hv
  | call f left right ihl ihr =>
    obtain ⟨a, ha, hrest⟩ := bind_eq_ok_iff.mp hv
    obtain ⟨b, hb, hvalue⟩ := bind_eq_ok_iff.mp hrest
    obtain rfl := Except.ok.inj hvalue
    have hleft := ihl (fun l hl => hleaf l (List.mem_append_left _ hl)) ha
    have hright := ihr (fun l hl => hleaf l (List.mem_append_right _ hl)) hb
    exact f.toInt_apply hleft hright

/-! ### The stack -/

/-- A slot with its result replaced by another. -/
def Slot.map {P V W : Type} (g : V → W) : Slot P V → Slot P W
  | .waiting f => .waiting f
  | .ready v => .ready (g v)

/-- Stacks that correspond by a function, result by result. -/
theorem map_of_forall₂_slotRel {P V W : Type} {g : V → W} {Q : V → Prop} {slots : List (Slot P V)}
    {slots' : List (Slot P W)}
    (h : List.Forall₂ (Slot.Rel fun v w => w = g v ∧ Q v) slots slots') :
    slots' = slots.map (Slot.map g) ∧ ∀ v, Slot.ready v ∈ slots → Q v := by
  induction h with
  | nil => exact ⟨rfl, fun v hv => by cases hv⟩
  | cons hslot _ ih =>
    obtain ⟨rfl, hrest⟩ := ih
    cases hslot with
    | waiting f => exact ⟨rfl, fun v hv => hrest v (by simpa using hv)⟩
    | ready hready =>
      obtain ⟨rfl, hQ⟩ := hready
      refine ⟨rfl, fun v hv => ?_⟩
      rcases List.mem_cons.mp hv with hv | hv
      · obtain rfl := Slot.ready.inj hv
        exact hQ
      · exact hrest v hv

/-- A well-formed operand can be read up to any of its tokens. -/
theorem run_of_check {before tokens : Operand} (h : Operand.check tokens = .ok ())
    (hbefore : before <+: tokens) : ∃ shapes, shapeReading.run [] before = .ok shapes := by
  obtain ⟨after, rfl⟩ := hbefore
  rw [Operand.check_eq_bind, Reading.run_append] at h
  obtain ⟨slots, hslots, -⟩ := bind_eq_ok_iff.mp h
  obtain ⟨shapes, hshapes, -⟩ := bind_eq_ok_iff.mp hslots
  exact ⟨shapes, hshapes⟩

/-- The evaluation and the checked evaluation hold the same values, none of them negative, as long
    as the leaves are proper and have values. -/
theorem valueReading_related_checkedReading (policy : EmptyPolicy) (text : String) :
    Reading.Related Eq (fun v checked => checked = some v ∧ 0 ≤ v.toInt)
      (fun l => (Token.leaf l).Proper) (valueReading (Subject.ofText policy text))
      (checkedReading (Subject.ofText policy text)) where
  leaf l hl := by
    show Agree _ _ (l.value _) ((l.value _).map some)
    cases hv : l.value (Subject.ofText policy text) with
    | ok v => exact .ok ⟨rfl, (Leaf.toInt_value hl hv).1⟩
    | error cause => exact .error rfl
  combine f a a' b b' ha hb := by
    obtain ⟨rfl, ha⟩ := ha
    obtain ⟨rfl, hb⟩ := hb
    refine ⟨f.applyChecked?_eq a b, ?_⟩
    show 0 ≤ (f.apply a b).toInt
    rw [f.toInt_apply (Int.toNat_of_nonneg ha).symm (Int.toNat_of_nonneg hb).symm]
    exact Int.natCast_nonneg _
  badShape _ := rfl

/-! ### Operands -/

namespace Operand

section Stack

variable {policy : EmptyPolicy} {text : String} {tokens : Operand}

/-- A well-formed operand that does not fail for want of numbers asks for nothing that is
    missing. -/
theorem isMissing_eq_false {s : Subject} (hcheck : Operand.check tokens = .ok ())
    (hnumbers : Operand.value s tokens ≠ .error .noNumbers) {t : Token} (ht : t ∈ tokens) :
    t.isMissing s = false := by
  by_contra hmissing
  rw [Bool.not_eq_false] at hmissing
  exact hnumbers ((value_eq_error_iff_of_check hcheck).mpr ⟨rfl, t, ht, hmissing⟩)

/-- Wherever the evaluation of a well-formed operand stands, the checked evaluation has the same
    stack, and nothing on it is negative. -/
theorem stack_checked (hcheck : Operand.check tokens = .ok ())
    (hproper : ∀ t ∈ tokens, t.Proper)
    (hpresent : ∀ t ∈ tokens, t.isMissing (Subject.ofText policy text) = false)
    {before : Operand} (hbefore : before <+: tokens) :
    ∃ slots, (valueReading (Subject.ofText policy text)).run [] before = .ok slots ∧
      (checkedReading (Subject.ofText policy text)).run [] before =
        .ok (slots.map (Slot.map some)) ∧
      ∀ v, Slot.ready v ∈ slots → 0 ≤ v.toInt := by
  obtain ⟨shapes, hshapes⟩ := run_of_check hcheck hbefore
  -- nothing is missing, so the evaluation gets as far as the check of the shape does
  have hshape := (valueReading_related_shapeReading (Subject.ofText policy text)).run
    (fun l hl => hpresent (.leaf l) (hbefore.subset hl)) .nil
  rw [hshapes] at hshape
  obtain ⟨slots, hslots, -⟩ := hshape.of_ok_right
  have hchecked := (valueReading_related_checkedReading policy text).run
    (fun l hl => hproper (.leaf l) (hbefore.subset hl)) .nil
  rw [hslots] at hchecked
  obtain ⟨checked, hrun, hsame⟩ := hchecked.of_ok_left
  obtain ⟨rfl, hnonneg⟩ := map_of_forall₂_slotRel hsame
  exact ⟨slots, hslots, hrun, hnonneg⟩

/-- The value of an expression is the one that the checked evaluation finds, and the number that
    the expression stands for. -/
theorem value_checked {e : Expr} (hproper : ∀ t ∈ e.tokens, t.Proper) {v : Value}
    (hv : Operand.value (Subject.ofText policy text) e.tokens = .ok v) :
    (checkedReading (Subject.ofText policy text)).reduce e.tokens = .ok (some v) ∧
      (text.length ≤ Value.limit → v.toInt = e.exact text) := by
  have hchecked := (valueReading_related_checkedReading policy text).reduce
    fun l hl => hproper (.leaf l) hl
  rw [show (valueReading _).reduce e.tokens = .ok v from hv] at hchecked
  obtain ⟨_, hreduce, rfl, -⟩ := hchecked.of_ok_left
  refine ⟨hreduce, fun hlength => ?_⟩
  refine Expr.toInt_value (s := Subject.ofText policy text) ?_ ?_
  · intro l hl u hu
    exact (Leaf.toInt_value (hproper _ (Expr.leaf_mem_tokens hl)) hu).2 hlength
  · rw [Expr.value_eq_result, ← Reading.reduce_tokens]
    exact hv

end Stack

/-- **The value of an operand is exact.** Take a well-formed operand whose tokens were read, and a
    text that has the statistics it asks for.  Wherever the evaluation stands, no value on its
    stack is negative, and the checked evaluation has the same stack.  The result is the number
    that the expression of the operand stands for, on every text not longer than the largest
    value. -/
theorem value_exact {policy : EmptyPolicy} {text : String} {tokens : Operand}
    (hcheck : Operand.check tokens = .ok ())
    (hread : ∀ t ∈ tokens, (∃ source found, Operand.read source = .ok found ∧ t ∈ found) ∨
      ∃ word, Token.ofText? word = some t)
    (hnumbers : Operand.value (Subject.ofText policy text) tokens ≠ .error .noNumbers) :
    (∀ before, before <+: tokens → ∃ slots,
      (valueReading (Subject.ofText policy text)).run [] before = .ok slots ∧
      (checkedReading (Subject.ofText policy text)).run [] before =
        .ok (slots.map (Slot.map some)) ∧
      ∀ v, Slot.ready v ∈ slots → 0 ≤ v.toInt ∧ v.toInt ≤ Value.largest) ∧
    ∃ (e : Expr) (v : Value), e.tokens = tokens ∧
      Operand.value (Subject.ofText policy text) tokens = .ok v ∧
      (checkedReading (Subject.ofText policy text)).reduce tokens = .ok (some v) ∧
      (text.length ≤ Value.limit → v.toInt = e.exact text) := by
  have hproper : ∀ t ∈ tokens, t.Proper := by
    intro t ht
    rcases hread t ht with ⟨source, found, hfound, hmem⟩ | ⟨word, hword⟩
    · exact proper_of_read hfound hmem
    · exact Token.proper_of_ofText? hword
  have hpresent : ∀ t ∈ tokens, t.isMissing (Subject.ofText policy text) = false :=
    fun t ht => isMissing_eq_false hcheck hnumbers ht
  constructor
  · intro before hbefore
    obtain ⟨slots, hslots, hrun, hnonneg⟩ := stack_checked hcheck hproper hpresent hbefore
    exact ⟨slots, hslots, hrun, fun v hv => ⟨hnonneg v hv, Value.toInt_le_largest v⟩⟩
  · obtain ⟨e, rfl⟩ := check_eq_ok_iff.mp hcheck
    have hshape := sameShape_of_forall_not_isMissing hpresent
    rw [hcheck] at hshape
    obtain ⟨v, hv, -⟩ := hshape.of_ok_right
    exact ⟨e, v, rfl, hv, value_checked hproper hv⟩

/-- The largest value and a sum above zero are held back before their mean with a count is taken. -/
theorem value_exact_past_limit :
    ∃ v, Operand.value (Subject.ofText .reject "aaa 12") [.call .mean, .call .sum,
      .leaf (.number Int64.maxValue), .leaf .total, .leaf (.count "aa")] = .ok v ∧
      v.toInt = 4611686018427387904 := by
  have hread : ∀ t ∈ [Token.call .mean, .call .sum, .leaf (.number Int64.maxValue), .leaf .total,
      .leaf (.count "aa")],
      (∃ source found, Operand.read source = .ok found ∧ t ∈ found) ∨
        ∃ word, Token.ofText? word = some t := by
    intro t ht
    simp only [List.mem_cons, List.not_mem_nil, or_false] at ht
    rcases ht with rfl | rfl | rfl | rfl | rfl
    · exact .inr ⟨"avgof2", by decide +kernel⟩
    · exact .inr ⟨"sumof2", by decide +kernel⟩
    · exact .inr ⟨"9223372036854775807", by decide +kernel⟩
    · exact .inr ⟨"sumofallnumberfromstring", by decide +kernel⟩
    · exact .inr ⟨"count-aa", by decide +kernel⟩
  obtain ⟨-, e, v, he, hv, -, hexact⟩ :=
    @value_exact .reject "aaa 12" _ (by rfl) hread (by decide +kernel)
  have htree : e = .call .mean (.call .sum (.leaf (.number Int64.maxValue)) (.leaf .total))
      (.leaf (.count "aa")) := Expr.tokens_inj he
  refine ⟨v, hv, ?_⟩
  rw [hexact (by decide), htree]
  decide +kernel

end Operand

end TextRules
