import Mathlib.Tactic.ByContra
import Mathlib.Data.List.Basic
import TextRules.Proofs.Reading

namespace TextRules

/-!
# Where the text of a rule is cut

Reading a rule searches its text for the first sign of a relation, a longer sign going before a
shorter one at the same place (`FirstSign`).  The place can also be told without a search, from the
characters around the sign alone (`Cut`): nothing on the left belongs to a sign, and the sign
cannot be made longer on either side.

* `Cut.firstSign`, `FirstSign.unique` — a cut is at the leftmost sign and takes the longest one
  there, so a text has at most one.
* `splitAtRelation?_eq_some_iff` — the search finds exactly the cut.
* `Rule.parse_follows_cut` — what reading a rule answers, fault by fault, in terms of the cut.
-/

/-- Whether a character is one of `<`, `>` and `=`.  Each sign of a relation has one of them. -/
def isRelationMark (c : Char) : Bool := c == '<' || c == '>' || c == '='

/-- A text with a sign such that no other sign starts further to the left, and none that starts at
    the same place is longer. -/
structure FirstSign (text left : List Char) (relation : Relation) (right : List Char) : Prop where
  text_eq : text = left ++ relation.symbol.toList ++ right
  leftmost_longest : ∀ (before : List Char) (other : Relation) (after : List Char),
    text = before ++ other.symbol.toList ++ after →
      left.length < before.length ∨
        left.length = before.length ∧ other.symbol.length ≤ relation.symbol.length

/-- A text with a sign that no mark comes before and that cannot be made longer: an equals sign
    does not stand behind an exclamation mark, and no equals sign follows a bare `<` or `>`. -/
structure Cut (text left : List Char) (relation : Relation) (right : List Char) : Prop where
  text_eq : text = left ++ relation.symbol.toList ++ right
  left_unmarked : ∀ c ∈ left, isRelationMark c = false
  left_not_negating : relation = .eq → left.getLast? ≠ some '!'
  right_not_widening : relation = .lt ∨ relation = .gt → right.head? ≠ some '='

/-! ### Signs -/

namespace Relation

@[simp] theorem toList_symbol (r : Relation) :
    r.symbol.toList =
      match r with
      | .lt => ['<']
      | .le => ['<', '=']
      | .gt => ['>']
      | .ge => ['>', '=']
      | .eq => ['=']
      | .ne => ['!', '='] := by
  cases r <;> rfl

theorem symbol_inj {r r' : Relation} (h : r.symbol = r'.symbol) : r = r' := by
  have hsome : some r = some r' := by rw [← ofSymbol?_symbol r, h, ofSymbol?_symbol]
  exact Option.some.inj hsome

/-- A text with a sign has a mark, since each sign has one. -/
theorem exists_mark {text left right : List Char} {r : Relation}
    (h : text = left ++ r.symbol.toList ++ right) : ∃ c ∈ text, isRelationMark c = true := by
  have hsign : r.symbol.toList.any isRelationMark = true := by cases r <;> decide
  obtain ⟨c, hc, hmark⟩ := List.any_eq_true.mp hsign
  exact ⟨c, by simp only [h, List.mem_append, hc, or_true, true_or], hmark⟩

/-- Of two signs that a text starts with, the one that cannot be made longer is the longest. -/
theorem length_symbol_le {r other : Relation} {right after : List Char}
    (h : r.symbol.toList ++ right = other.symbol.toList ++ after)
    (hright : r = .lt ∨ r = .gt → right.head? ≠ some '=') :
    other.symbol.length ≤ r.symbol.length := by
  rw [← String.length_toList, ← String.length_toList]
  -- of two signs with one beginning, the longer one goes on with an equals sign
  cases r <;> cases other <;> simp_all

end Relation

/-! ### A text has one cut at most -/

/-- A cut is at the leftmost and longest sign. -/
theorem Cut.firstSign {text left right : List Char} {relation : Relation}
    (h : Cut text left relation right) : FirstSign text left relation right := by
  refine ⟨h.text_eq, fun before other after hother => ?_⟩
  have hsame := h.text_eq.symm.trans hother
  rw [List.append_assoc, List.append_assoc, List.append_eq_append_iff] at hsame
  rcases hsame with ⟨gap, rfl, hgap⟩ | ⟨gap, rfl, hgap⟩
  · -- the other sign starts at the cut or further to the right
    cases gap with
    | nil =>
      right
      exact ⟨by simp, Relation.length_symbol_le hgap h.right_not_widening⟩
    | cons c gap =>
      left
      simp
  · -- it starts at the cut or further to the left, with characters of the left side
    cases gap with
    | nil =>
      right
      exact ⟨by simp, Relation.length_symbol_le hgap.symm h.right_not_widening⟩
    | cons c gap =>
      have hc : isRelationMark c = false := h.left_unmarked c (by simp)
      cases other <;> simp only [Relation.toList_symbol, List.cons_append, List.nil_append,
        List.cons.injEq] at hgap
      case ne =>
        obtain ⟨rfl, hgap⟩ := hgap
        cases gap with
        | nil =>
          -- the equals sign of `!=` can only be the sign at the cut
          have hrelation : relation = .eq := by
            cases relation <;> simp at hgap ⊢
          exact absurd (by simp) (h.left_not_negating hrelation)
        | cons d gap =>
          obtain ⟨rfl, -⟩ := List.cons.inj hgap
          have hd : isRelationMark '=' = false := h.left_unmarked '=' (by simp)
          cases hd
      all_goals
        obtain ⟨rfl, -⟩ := hgap
        cases hc

/-- No text has two first signs. -/
theorem FirstSign.unique {text left right left' right' : List Char} {relation relation' : Relation}
    (h : FirstSign text left relation right) (h' : FirstSign text left' relation' right') :
    left = left' ∧ relation = relation' ∧ right = right' := by
  have hsame := h.text_eq.symm.trans h'.text_eq
  have hforth := h.leftmost_longest _ _ _ h'.text_eq
  have hback := h'.leftmost_longest _ _ _ h.text_eq
  -- each is as far to the left as the other, and as long
  have hlength : left.length = left'.length := by omega
  have hsymbol : relation.symbol.toList.length = relation'.symbol.toList.length := by
    rw [String.length_toList, String.length_toList]
    omega
  rw [List.append_assoc, List.append_assoc] at hsame
  obtain ⟨hleft, hrest⟩ := List.append_inj hsame hlength
  obtain ⟨hsign, hright⟩ := List.append_inj hrest hsymbol
  exact ⟨hleft, Relation.symbol_inj (String.toList_inj.mp hsign), hright⟩

theorem Cut.unique {text left right left' right' : List Char} {relation relation' : Relation}
    (h : Cut text left relation right) (h' : Cut text left' relation' right') :
    left = left' ∧ relation = relation' ∧ right = right' :=
  h.firstSign.unique h'.firstSign

/-! ### The search finds the cut -/

/-- A sign is found at the start of a text exactly if the text is cut there. -/
theorem relationAt?_eq_some_iff {text right : List Char} {relation : Relation} :
    relationAt? text = some (relation, right) ↔ Cut text [] relation right := by
  constructor
  · intro h
    unfold relationAt? at h
    split at h <;> simp only [reduceCtorEq, Option.some.injEq, Prod.mk.injEq] at h
    all_goals
      obtain ⟨rfl, rfl⟩ := h
      refine ⟨by simp, by simp, by simp, ?_⟩
    all_goals simp_all [List.head?_eq_some_iff]
  · rintro ⟨rfl, -, -, hright⟩
    -- what follows a bare sign does not make it a longer one
    have hbare : relation = .lt ∨ relation = .gt → ∀ rest, right ≠ '=' :: rest := by
      rintro hrelation rest rfl
      exact hright hrelation rfl
    cases relation with
    | lt => rw [Relation.toList_symbol]; exact relationAt?.eq_4 right (hbare (.inl rfl))
    | gt => rw [Relation.toList_symbol]; exact relationAt?.eq_5 right (hbare (.inr rfl))
    | _ => rfl

/-- No sign stands at the start of a text that starts neither with a mark nor with `!=`. -/
theorem relationAt?_eq_none_iff {c : Char} {rest : List Char} :
    relationAt? (c :: rest) = none ↔
      isRelationMark c = false ∧ (c = '!' → rest.head? ≠ some '=') := by
  unfold relationAt?
  split
  case h_7 hle hge hne hlt hgt heq =>
    have hmark : isRelationMark c = false := by simp_all [isRelationMark]
    refine ⟨fun _ => ⟨hmark, ?_⟩, fun _ => rfl⟩
    rintro rfl hhead
    obtain ⟨tail, rfl⟩ := List.head?_eq_some_iff.mp hhead
    exact hne tail rfl
  all_goals simp_all [isRelationMark]

/-- A character with which no sign starts is put in front of the left side. -/
theorem Cut.cons_iff {c : Char} {rest left right : List Char} {relation : Relation}
    (hc : relationAt? (c :: rest) = none) :
    Cut (c :: rest) left relation right ↔
      ∃ left', left = c :: left' ∧ Cut rest left' relation right := by
  obtain ⟨hmark, hbang⟩ := relationAt?_eq_none_iff.mp hc
  constructor
  · intro h
    cases left with
    | nil =>
      rw [relationAt?_eq_some_iff.mpr h] at hc
      cases hc
    | cons d left' =>
      obtain ⟨rfl, hrest⟩ := List.cons.inj h.text_eq
      refine ⟨left', rfl, hrest, fun e he => h.left_unmarked e (List.mem_cons_of_mem _ he), ?_,
        h.right_not_widening⟩
      intro hrelation hlast
      refine h.left_not_negating hrelation ?_
      rw [List.getLast?_cons, hlast]
      rfl
  · rintro ⟨left', rfl, h⟩
    refine ⟨by rw [h.text_eq]; rfl, List.forall_mem_cons.mpr ⟨hmark, h.left_unmarked⟩, ?_,
      h.right_not_widening⟩
    intro hrelation hlast
    cases left' with
    | nil =>
      -- the character stands right before the sign
      subst hrelation
      refine hbang (by simpa using hlast) ?_
      rw [h.text_eq]
      rfl
    | cons d left' =>
      rw [List.getLast?_cons_cons] at hlast
      exact h.left_not_negating hrelation hlast

/-- **The search finds the cut**, and nothing else. -/
theorem splitAtRelation?_eq_some_iff {text left right : List Char} {relation : Relation} :
    splitAtRelation? text = some (left, relation, right) ↔ Cut text left relation right := by
  -- a character with which no sign starts moves on to the left side, which therefore varies
  induction text generalizing left with
  | nil =>
    rw [splitAtRelation?]
    constructor
    · intro h
      cases h
    · intro h
      have htext := h.text_eq
      cases relation <;> simp at htext
  | cons c rest ih =>
    rw [splitAtRelation?]
    cases hc : relationAt? (c :: rest) with
    | some found =>
      obtain ⟨relation', right'⟩ := found
      have hcut := relationAt?_eq_some_iff.mp hc
      constructor
      · intro h
        obtain ⟨rfl, rfl, rfl⟩ : _ ∧ _ ∧ _ := by simpa using h
        exact hcut
      · intro h
        obtain ⟨rfl, rfl, rfl⟩ := hcut.unique h
        rfl
    | none =>
      rw [Cut.cons_iff hc]
      simp only [← ih, Option.map_eq_some_iff, Prod.exists, Prod.mk.injEq]
      constructor
      · rintro ⟨left', _, _, h, rfl, rfl, rfl⟩
        exact ⟨left', rfl, h⟩
      · rintro ⟨left', rfl, h⟩
        exact ⟨left', _, _, h, rfl, rfl, rfl⟩

/-- A text is cut nowhere exactly if it has no mark. -/
theorem splitAtRelation?_eq_none_iff {text : List Char} :
    splitAtRelation? text = none ↔ ∀ c ∈ text, isRelationMark c = false := by
  constructor
  · intro h
    induction text with
    | nil => simp
    | cons c rest ih =>
      rw [splitAtRelation?] at h
      cases hc : relationAt? (c :: rest) with
      | some found =>
        rw [hc] at h
        cases h
      | none =>
        rw [hc] at h
        exact List.forall_mem_cons.mpr
          ⟨(relationAt?_eq_none_iff.mp hc).1, ih (Option.map_eq_none_iff.mp h)⟩
  · intro h
    rw [Option.eq_none_iff_forall_ne_some]
    rintro ⟨left, relation, right⟩ hfound
    obtain ⟨c, hc, hmark⟩ := Relation.exists_mark (splitAtRelation?_eq_some_iff.mp hfound).text_eq
    rw [h c hc] at hmark
    cases hmark

/-- A text with a mark has a cut. -/
theorem exists_cut {text : List Char} (h : ¬ ∀ c ∈ text, isRelationMark c = false) :
    ∃ left relation right, Cut text left relation right := by
  cases hfound : splitAtRelation? text with
  | none => exact absurd (splitAtRelation?_eq_none_iff.mp hfound) h
  | some found => exact ⟨_, _, _, splitAtRelation?_eq_some_iff.mp hfound⟩

/-- A cut is the same as a first sign. -/
theorem cut_iff_firstSign {text left right : List Char} {relation : Relation} :
    Cut text left relation right ↔ FirstSign text left relation right := by
  refine ⟨Cut.firstSign, fun h => ?_⟩
  have hmarked : ¬ ∀ c ∈ text, isRelationMark c = false := by
    intro hunmarked
    obtain ⟨c, hc, hmark⟩ := Relation.exists_mark h.text_eq
    rw [hunmarked c hc] at hmark
    cases hmark
  obtain ⟨left', relation', right', hcut⟩ := exists_cut hmarked
  obtain ⟨rfl, rfl, rfl⟩ := h.unique hcut.firstSign
  exact hcut

/-! ### What reading a rule answers -/

namespace Rule

variable {text : String} {left right : List Char} {relation : Relation}

/-- A text with balanced brackets and a right side is read one side after the other. -/
theorem parse_of_cut (hbalanced : balanced text = true)
    (hcut : Cut text.toList left relation right) (hright : right ≠ []) :
    Rule.parse text =
      (Rule.parseSide .left (String.ofList left)).bind fun l =>
        (Rule.parseSide .right (String.ofList right)).bind fun r => .ok ⟨l, relation, r⟩ := by
  unfold Rule.parse
  rw [if_pos hbalanced, splitAtRelation?_eq_some_iff.mpr hcut]
  cases right with
  | nil => exact absurd rfl hright
  | cons c right => rfl

/-- Once a text is cut into two sides, no fault is one of format. -/
theorem parse_ne_notInFormat_of_cut (hbalanced : balanced text = true)
    (hcut : Cut text.toList left relation right) (hright : right ≠ []) :
    Rule.parse text ≠ .error .notInFormat := by
  -- every fault that is left names a side
  rw [parse_of_cut hbalanced hcut hright, Rule.parseSide, Rule.parseSide]
  cases Operand.parse (String.ofList left) with
  | error cause => simp [Except.bind]
  | ok l => cases Operand.parse (String.ofList right) <;> simp [Except.bind]

/-- A text is out of format for want of balance, of a sign or of a right side. -/
theorem parse_eq_notInFormat_iff :
    Rule.parse text = .error .notInFormat ↔
      balanced text = false ∨ (∀ c ∈ text.toList, isRelationMark c = false) ∨
        ∃ left relation, FirstSign text.toList left relation [] := by
  constructor
  · intro h
    by_contra hformat
    simp only [not_or, Bool.not_eq_false] at hformat
    obtain ⟨hbalanced, hmarked, hends⟩ := hformat
    obtain ⟨left, relation, right, hcut⟩ := exists_cut hmarked
    have hright : right ≠ [] := by
      rintro rfl
      exact hends ⟨left, relation, hcut.firstSign⟩
    exact parse_ne_notInFormat_of_cut hbalanced hcut hright h
  · rintro (hbalanced | hunmarked | ⟨left, relation, hfirst⟩)
    · simp [Rule.parse, hbalanced]
    · simp [Rule.parse, splitAtRelation?_eq_none_iff.mpr hunmarked]
    · simp [Rule.parse, splitAtRelation?_eq_some_iff.mpr (cut_iff_firstSign.mpr hfirst)]

/-- **How a text is read as a rule.** It is out of format exactly if its brackets are not balanced,
    it has no mark, or its first sign ends it.  In every other case it is cut at its first sign,
    which is its only cut and has something on its right, and the answer is the fault of the left
    operand, else the fault of the right one, else the rule of the two operands. -/
theorem parse_follows_cut (text : String) :
    (Rule.parse text = .error .notInFormat ↔
      balanced text = false ∨ (∀ c ∈ text.toList, isRelationMark c = false) ∨
        ∃ left relation, FirstSign text.toList left relation []) ∧
    (Rule.parse text ≠ .error .notInFormat →
      ∃ left relation right, right ≠ [] ∧
        Cut text.toList left relation right ∧ FirstSign text.toList left relation right ∧
        (∀ left' relation' right', Cut text.toList left' relation' right' →
          left' = left ∧ relation' = relation ∧ right' = right) ∧
        (∀ cause, Operand.parse (String.ofList left) = .error cause →
          Rule.parse text = .error (.badOperand .left cause)) ∧
        (∀ l cause, Operand.parse (String.ofList left) = .ok l →
          Operand.parse (String.ofList right) = .error cause →
            Rule.parse text = .error (.badOperand .right cause)) ∧
        ∀ l r, Operand.parse (String.ofList left) = .ok l →
          Operand.parse (String.ofList right) = .ok r →
            Rule.parse text = .ok ⟨l, relation, r⟩) := by
  refine ⟨parse_eq_notInFormat_iff, fun h => ?_⟩
  rw [ne_eq, parse_eq_notInFormat_iff] at h
  simp only [not_or, Bool.not_eq_false] at h
  obtain ⟨hbalanced, hmarked, hends⟩ := h
  obtain ⟨left, relation, right, hcut⟩ := exists_cut hmarked
  have hright : right ≠ [] := by
    rintro rfl
    exact hends ⟨left, relation, hcut.firstSign⟩
  have hparse := parse_of_cut hbalanced hcut hright
  simp only [Rule.parseSide] at hparse
  refine ⟨left, relation, right, hright, hcut, hcut.firstSign, ?_, ?_, ?_, ?_⟩
  · intro left' relation' right' hcut'
    exact hcut'.unique hcut
  · intro cause hl
    rw [hparse, hl]
    rfl
  · intro l cause hl hr
    rw [hparse, hl, hr]
    rfl
  · intro l r hl hr
    rw [hparse, hl, hr]
    rfl

theorem parse_fails_right_of_longest_sign :
    Rule.parse "max(1,2)<==1" = .error (.badOperand .right (.words (.unknownWord "=1"))) := by
  have hformat : Rule.parse "max(1,2)<==1" ≠ .error .notInFormat := by decide +kernel
  have hcut : Cut "max(1,2)<==1".toList "max(1,2)".toList .le "=1".toList :=
    ⟨by decide +kernel, by simp [isRelationMark], by simp, by simp⟩
  obtain ⟨left, relation, right, -, -, -, hunique, -, hright, -⟩ :=
    (parse_follows_cut "max(1,2)<==1").2 hformat
  obtain ⟨rfl, rfl, rfl⟩ := hunique _ _ _ hcut
  exact hright [.call .max, .leaf (.number 1), .leaf (.number 2)] _ (by decide +kernel)
    (by decide +kernel)

end Rule

end TextRules
