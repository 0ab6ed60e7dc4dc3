import TextRules.Proofs.RoundTrip

namespace TextRules

/-!
# Rules without their fillers

The reader drops blanks and quotes from an operand, but it does so late: the sign of the relation
has been looked for by then, and the operand has been lower-cased.  So a rule without its fillers
is not always the same rule.

* `Operand.parse_dropFillers` — in an operand, fillers mean nothing unless they tell how a capital
  sigma is lower-cased.
* `Cut.without_fillers`, `Cut.without_fillers_of_negating`, `Cut.without_fillers_of_widening` —
  where a text without its fillers is cut.
* `Rule.parse_without_fillers` — when fillers mean nothing in a rule (`IdleFillers`), and what comes
  of them when they stand inside a sign or are all that follows it.
-/

/-- A text without its fillers. -/
def dropFillers (text : List Char) : List Char := text.filter fun c => !isFiller c

/-- What leaves the fillers of a text without a meaning.  There is no capital sigma, whose lower
    case they could decide.  They do not keep an equals sign from an exclamation mark before it or
    from a bare `<` or `>`, and they are not all that follows the sign of the relation. -/
structure IdleFillers (text : List Char) : Prop where
  no_sigma : 'Σ' ∉ text
  not_negating : ∀ left right, Cut text left .eq right → (dropFillers left).getLast? ≠ some '!'
  not_widening : ∀ left relation right, Cut text left relation right →
    relation = .lt ∨ relation = .gt → (dropFillers right).head? ≠ some '='
  right_kept : ∀ left relation right, Cut text left relation right → right ≠ [] →
    dropFillers right ≠ []

/-! ### Dropping fillers -/

theorem dropFillers_append (xs ys : List Char) :
    dropFillers (xs ++ ys) = dropFillers xs ++ dropFillers ys := List.filter_append xs ys

theorem mem_of_mem_dropFillers {text : List Char} {c : Char} (h : c ∈ dropFillers text) :
    c ∈ text := List.mem_of_mem_filter h

theorem dropFillers_symbol (r : Relation) : dropFillers r.symbol.toList = r.symbol.toList := by
  cases r <;> decide

/-- Brackets are no fillers. -/
theorem balanced_dropFillers (text : String) :
    balanced (String.ofList (dropFillers text.toList)) = balanced text := by
  have hkept : ∀ c, isBracket c = true → isFiller c = false := by
    intro c hc
    have hfixed := isFixed_of_isBracket hc
    simp only [isFixed, Bool.and_eq_true, Bool.not_eq_true'] at hfixed
    exact hfixed.2
  have hsame : (dropFillers text.toList).filter isBracket = text.toList.filter isBracket := by
    rw [dropFillers, List.filter_filter]
    refine List.filter_congr fun c _ => ?_
    cases hc : isBracket c with
    | false => rfl
    | true => rw [hkept c hc]; rfl
  rw [balanced, balanced, String.toList_ofList, ← depth?_filter_isBracket, hsame,
    depth?_filter_isBracket]

/-- Without a capital sigma, it makes no difference whether fillers are dropped before the text is
    lower-cased or afterwards. -/
theorem normalize_dropFillers {text : List Char} (h : 'Σ' ∉ text) :
    normalize (dropFillers text) = normalize text := by
  have hdropped : 'Σ' ∉ dropFillers text := fun hmem => h (mem_of_mem_dropFillers hmem)
  rw [normalize_eq_filter, normalize_eq_filter, lowerCase_eq_flatMap h,
    lowerCase_eq_flatMap hdropped]
  -- character by character from here on: what stands before one no longer matters
  clear h hdropped
  induction text with
  | nil => rfl
  | cons c rest ih =>
    by_cases hc : isFiller c = true
    · have hgone : dropFillers (c :: rest) = dropFillers rest :=
        List.filter_cons_of_neg (by simp [hc])
      rw [hgone, ih, List.flatMap_cons, List.filter_append, lowerChar_of_isFiller hc,
        List.filter_cons_of_neg (by simp [hc]), List.filter_nil, List.nil_append]
    · have hkept : dropFillers (c :: rest) = c :: dropFillers rest :=
        List.filter_cons_of_pos (by simp [hc])
      rw [hkept, List.flatMap_cons, List.flatMap_cons, List.filter_append, List.filter_append, ih]

/-- **Fillers mean nothing in an operand** without a capital sigma. -/
theorem Operand.parse_dropFillers {text : List Char} (h : 'Σ' ∉ text) :
    Operand.parse (String.ofList (dropFillers text)) = Operand.parse (String.ofList text) := by
  have hread : Operand.read (String.ofList (dropFillers text)) =
      Operand.read (String.ofList text) := by
    unfold Operand.read
    rw [String.toList_ofList, String.toList_ofList, normalize_dropFillers h]
  unfold Operand.parse
  rw [hread]

/-! ### Where a text without its fillers is cut -/

namespace Cut

variable {text left right : List Char} {relation : Relation}

theorem dropFillers_eq (h : Cut text left relation right) :
    dropFillers text = dropFillers left ++ relation.symbol.toList ++ dropFillers right := by
  rw [h.text_eq, dropFillers_append, dropFillers_append, dropFillers_symbol]

theorem unmarked_dropFillers (h : Cut text left relation right) :
    ∀ c ∈ dropFillers left, isRelationMark c = false :=
  fun c hc => h.left_unmarked c (mem_of_mem_dropFillers hc)

/-- The cut stays where it is, unless the sign meets more of a sign. -/
theorem without_fillers (h : Cut text left relation right)
    (hleft : relation = .eq → (dropFillers left).getLast? ≠ some '!')
    (hright : relation = .lt ∨ relation = .gt → (dropFillers right).head? ≠ some '=') :
    Cut (dropFillers text) (dropFillers left) relation (dropFillers right) :=
  ⟨h.dropFillers_eq, h.unmarked_dropFillers, hleft, hright⟩

/-- Behind an exclamation mark, an equals sign becomes another sign. -/
theorem without_fillers_of_negating (h : Cut text left .eq right)
    (hlast : (dropFillers left).getLast? = some '!') :
    ∃ before, Cut (dropFillers text) before .ne (dropFillers right) := by
  obtain ⟨before, hbefore⟩ := List.getLast?_eq_some_iff.mp hlast
  refine ⟨before, ?_, ?_, nofun, nofun⟩
  · rw [h.dropFillers_eq, hbefore]
    simp
  · intro c hc
    refine h.unmarked_dropFillers c ?_
    rw [hbefore]
    exact List.mem_append_left _ hc

/-- In front of an equals sign, a bare `<` or `>` becomes another sign. -/
theorem without_fillers_of_widening (h : Cut text left relation right)
    (hrelation : relation = .lt ∨ relation = .gt)
    (hhead : (dropFillers right).head? = some '=') :
    ∃ wider after, wider ≠ relation ∧ Cut (dropFillers text) (dropFillers left) wider after := by
  obtain ⟨after, hafter⟩ := List.head?_eq_some_iff.mp hhead
  obtain rfl | rfl := hrelation
  · refine ⟨.le, after, nofun, ?_, h.unmarked_dropFillers, nofun, nofun⟩
    rw [h.dropFillers_eq, hafter]
    simp
  · refine ⟨.ge, after, nofun, ?_, h.unmarked_dropFillers, nofun, nofun⟩
    rw [h.dropFillers_eq, hafter]
    simp

/-- Where only fillers follow the sign, nothing follows it without them. -/
theorem exists_without_fillers (h : Cut text left relation right)
    (hright : dropFillers right = []) : ∃ before sign, Cut (dropFillers text) before sign [] := by
  by_cases hnegating : relation = .eq ∧ (dropFillers left).getLast? = some '!'
  · obtain ⟨rfl, hlast⟩ := hnegating
    obtain ⟨before, hcut⟩ := h.without_fillers_of_negating hlast
    exact ⟨before, .ne, hright ▸ hcut⟩
  · rw [not_and] at hnegating
    have hcut := h.without_fillers hnegating (by simp [hright])
    exact ⟨dropFillers left, relation, hright ▸ hcut⟩

end Cut

/-! ### Reading rules -/

namespace Rule

/-- A side without a capital sigma is read without its fillers as it is with them. -/
theorem parseSide_dropFillers (side : Side) {text : List Char} (h : 'Σ' ∉ text) :
    parseSide side (String.ofList (dropFillers text)) = parseSide side (String.ofList text) := by
  rw [parseSide, parseSide, Operand.parse_dropFillers h]

/-- Where fillers are idle, a rule is read without them as it is with them. -/
theorem parse_dropFillers_of_idle {text : String} (h : IdleFillers text.toList) :
    Rule.parse (String.ofList (dropFillers text.toList)) = Rule.parse text := by
  have hbalanced := balanced_dropFillers text
  -- a text without any sign is out of format, and dropping fillers makes no sign
  by_cases hunmarked : ∀ c ∈ text.toList, isRelationMark c = false
  · have hbare : ∀ c ∈ dropFillers text.toList, isRelationMark c = false :=
      fun c hc => hunmarked c (mem_of_mem_dropFillers hc)
    rw [parse_eq_notInFormat_iff.mpr (.inr (.inl hunmarked)), parse_eq_notInFormat_iff,
      String.toList_ofList]
    exact .inr (.inl hbare)
  · obtain ⟨left, relation, right, hcut⟩ := exists_cut hunmarked
    have hbare : Cut (String.ofList (dropFillers text.toList)).toList (dropFillers left) relation
        (dropFillers right) := by
      rw [String.toList_ofList]
      refine hcut.without_fillers ?_ (h.not_widening left relation right hcut)
      rintro rfl
      exact h.not_negating left right hcut
    by_cases hb : balanced text = true ∧ right ≠ []
    · -- neither side has a capital sigma, since the text has none
      have hsides : 'Σ' ∉ left ∧ 'Σ' ∉ right := by
        have hsigma := h.no_sigma
        rw [hcut.text_eq] at hsigma
        simp only [List.mem_append, not_or] at hsigma
        exact ⟨hsigma.1.1, hsigma.2⟩
      rw [parse_of_cut hb.1 hcut hb.2,
        parse_of_cut (hbalanced.trans hb.1) hbare (h.right_kept left relation right hcut hb.2),
        parseSide_dropFillers .left hsides.1, parseSide_dropFillers .right hsides.2]
    · rw [not_and_or, Bool.not_eq_true, not_not] at hb
      have hformat : Rule.parse text = .error .notInFormat := by
        rw [parse_eq_notInFormat_iff]
        refine hb.imp_right fun hright => .inr ⟨left, relation, ?_⟩
        exact hright ▸ hcut.firstSign
      have hbareFormat : Rule.parse (String.ofList (dropFillers text.toList)) =
          .error .notInFormat := by
        rw [parse_eq_notInFormat_iff, hbalanced]
        refine hb.imp_right fun hright => .inr ⟨dropFillers left, relation, ?_⟩
        rw [hright] at hbare
        exact hbare.firstSign
      rw [hformat, hbareFormat]

/-- A rule that is read has the relation at which its text is cut. -/
theorem relation_of_parse {text : String} {left right : List Char} {relation : Relation}
    {rule : Rule} (h : Rule.parse text = .ok rule) (hcut : Cut text.toList left relation right) :
    rule.relation = relation := by
  obtain ⟨-, left', right', hsplit, -⟩ := parse_eq_ok_iff.mp h
  exact ((splitAtRelation?_eq_some_iff.mp hsplit).unique hcut).2.1

/-- **When fillers mean nothing in a rule.** Where they are idle, a text is read without them as it
    is with them, be it a rule or not.  If only fillers follow the sign, the text is out of format
    without them, and otherwise the fault is one of an operand.  If fillers cut a sign in two, no
    rule is read both with and without them. -/
theorem parse_without_fillers (text : String) :
    let bare := String.ofList (dropFillers text.toList)
    (IdleFillers text.toList → Rule.parse bare = Rule.parse text) ∧
    (∀ left relation right, balanced text = true → Cut text.toList left relation right →
      right ≠ [] → dropFillers right = [] →
        Rule.parse bare = .error .notInFormat ∧ Rule.parse text ≠ .error .notInFormat) ∧
    ∀ left relation right, Cut text.toList left relation right →
      (relation = .eq ∧ (dropFillers left).getLast? = some '!' ∨
        (relation = .lt ∨ relation = .gt) ∧ (dropFillers right).head? = some '=') →
      ∀ rule, ¬(Rule.parse text = .ok rule ∧ Rule.parse bare = .ok rule) := by
  intro bare
  have hbare : bare.toList = dropFillers text.toList := String.toList_ofList
  refine ⟨parse_dropFillers_of_idle, ?_, ?_⟩
  · intro left relation right hbalanced hcut hright hgone
    obtain ⟨before, sign, hbefore⟩ := hcut.exists_without_fillers hgone
    refine ⟨?_, parse_ne_notInFormat_of_cut hbalanced hcut hright⟩
    rw [parse_eq_notInFormat_iff, hbare]
    exact .inr (.inr ⟨before, sign, hbefore.firstSign⟩)
  · rintro left relation right hcut hsign rule ⟨htext, hrule⟩
    have hrelation := relation_of_parse htext hcut
    obtain ⟨rfl, hlast⟩ | ⟨hbareSign, hhead⟩ := hsign
    · obtain ⟨before, hother⟩ := hcut.without_fillers_of_negating hlast
      rw [← hbare] at hother
      rw [relation_of_parse hrule hother] at hrelation
      cases hrelation
    · obtain ⟨wider, after, hne, hother⟩ := hcut.without_fillers_of_widening hbareSign hhead
      rw [← hbare] at hother
      exact hne ((relation_of_parse hrule hother).symm.trans hrelation)

theorem parse_without_fillers_of_spaced :
    Rule.parse "MAX(count(A),3)>1" = Rule.parse "MAX( count(\"A\"), 3 ) > 1" ∧
    Rule.parse "1<" = .error .notInFormat ∧ Rule.parse "1 < " ≠ .error .notInFormat ∧
    ∀ rule, ¬(Rule.parse "count(! = )1" = .ok rule ∧ Rule.parse "count(!=)1" = .ok rule) := by
  -- what these texts are without their fillers
  have hspaced : String.ofList (dropFillers "MAX( count(\"A\"), 3 ) > 1".toList) =
      "MAX(count(A),3)>1" := by decide +kernel
  have hopen : String.ofList (dropFillers "1 < ".toList) = "1<" := by decide +kernel
  have hbroken : String.ofList (dropFillers "count(! = )1".toList) = "count(!=)1" := by
    decide +kernel
  -- where they are cut
  have hspacedCut : Cut "MAX( count(\"A\"), 3 ) > 1".toList "MAX( count(\"A\"), 3 ) ".toList .gt
      " 1".toList := ⟨by decide +kernel, by simp [isRelationMark], by simp, by simp⟩
  have hopenCut : Cut "1 < ".toList "1 ".toList .lt " ".toList :=
    ⟨by decide +kernel, by simp [isRelationMark], by simp, by simp⟩
  have hbrokenCut : Cut "count(! = )1".toList "count(! ".toList .eq " )1".toList :=
    ⟨by decide +kernel, by simp [isRelationMark], by simp, by simp⟩
  have hidle : IdleFillers "MAX( count(\"A\"), 3 ) > 1".toList := by
    refine ⟨by decide +kernel, ?_, ?_, ?_⟩
    · intro left right hcut
      cases (hcut.unique hspacedCut).2.1
    · intro left relation right hcut _
      rw [(hcut.unique hspacedCut).2.2]
      decide +kernel
    · intro left relation right hcut _
      rw [(hcut.unique hspacedCut).2.2]
      decide +kernel
  have hsame := (parse_without_fillers _).1 hidle
  have hends := (parse_without_fillers "1 < ").2.1 _ _ _ (by decide +kernel) hopenCut
    (by decide +kernel) (by decide +kernel)
  have hdiffer := (parse_without_fillers "count(! = )1").2.2 _ _ _ hbrokenCut
    (.inl ⟨rfl, by decide +kernel⟩)
  rw [hspaced] at hsame
  rw [hopen] at hends
  rw [hbroken] at hdiffer
  exact ⟨hsame, hends.1, hends.2, hdiffer⟩

/-- Not every text is read without its fillers as it is with them. -/
theorem parse_sees_fillers : ¬∀ text : String,
    Rule.parse (String.ofList (dropFillers text.toList)) = Rule.parse text := by
  intro h
  -- a blank that follows the sign is something, and nothing without it
  have hblank := h "1 < "
  revert hblank
  decide +kernel

example : Rule.parse "1 < = 2" = .error (.badOperand .right (.words (.unknownWord "=2"))) ∧
    Rule.parse "1<=2" = .ok ⟨[.leaf (.number 1)], .le, [.leaf (.number 2)]⟩ := by
  decide +kernel

example : Rule.parse "count(ΑΣ Α) = 0" =
      .ok ⟨[.leaf (.count "αςα")], .eq, [.leaf (.number 0)]⟩ ∧
    Rule.parse "count(ΑΣΑ)=0" = .ok ⟨[.leaf (.count "ασα")], .eq, [.leaf (.number 0)]⟩ := by
  decide +kernel

end Rule

end TextRules
