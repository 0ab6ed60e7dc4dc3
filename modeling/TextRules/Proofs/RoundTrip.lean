import TextRules.Proofs.Cutting
import TextRules.Proofs.Writing

namespace TextRules

/-!
# Reading undoes writing

A rule can be written if its operands are well-formed, no number in it is negative, and the reader
leaves its texts to count as they are (`Rule.Renderable`).  Such a rule is read from every text that
spells it (`Rule.parse_of_spells`), and no other rule is read from any text
(`Rule.renderable_of_parse`).

* On the way from a rule to its texts and back, a written expression is followed through the stages
  of the reader: its brackets are balanced (`Expr.depth?_writing`), nothing in it is taken for the
  sign (`cut_of_spells`), and its words are those of its tokens (`Expr.keptWords_writing`).
* On the way from a text to a rule, what is left of the text after lower-casing and dropping already
  has every property that is asked for.

The two sides of a rule are not alike.  A text is cut at its first mark, so a text to count must not
have one on the left; on the right it may.
-/

/-! ### What can be written -/

/-- What a text to count has to be in order to be read again: not empty, in lower case, and
    without characters that the reader drops or cuts at. -/
structure Countable (needle : List Char) : Prop where
  ne_nil : needle ≠ []
  lower : lowerCase needle = needle
  clean : ∀ c ∈ needle, isFiller c = false ∧ isDelimiter c = false

/-- Whether a token can be written so that it is read again. -/
def Token.Renderable : Token → Prop
  | .leaf (.number value) => 0 ≤ value.toInt
  | .leaf (.count needle) => Countable needle.toList
  | .leaf .total | .leaf .average | .call _ => True

theorem Token.Renderable.proper {t : Token} (h : t.Renderable) : t.Proper := by
  cases t with
  | call f => trivial
  | leaf l =>
    cases l with
    | number value => exact h
    | count needle => simpa [Token.Proper] using h.ne_nil
    | total => trivial
    | average => trivial

/-- Whether a rule can be written so that it is read again.  On the left side a mark would be taken
    for the sign of the relation. -/
structure Rule.Renderable (rule : Rule) : Prop where
  left_check : Operand.check rule.left = .ok ()
  right_check : Operand.check rule.right = .ok ()
  left : ∀ t ∈ rule.left, t.Renderable
  right : ∀ t ∈ rule.right, t.Renderable
  left_unmarked : ∀ needle, .leaf (.count needle) ∈ rule.left →
    ∀ c ∈ needle.toList, isRelationMark c = false

/-! ### The characters of a written expression -/

/-- Whether a character is one of ASCII, no capital letter and no part of a sign. -/
def isPlain (c : Char) : Bool :=
  c.toNat < 128 && c.toLower == c && !isRelationMark c && c != '!'

theorem ascii_of_isDigit {c : Char} (h : c.isDigit = true) : c.toNat < 128 := by
  simp only [Char.isDigit, Bool.and_eq_true, decide_eq_true_eq] at h
  have hle : c.toNat ≤ 57 := h.2
  omega

theorem isPlain_of_isDigit {c : Char} (h : c.isDigit = true) : isPlain c = true :=
  forall_ascii (P := fun c => c.isDigit = true → isPlain c = true) (by decide +kernel)
    (ascii_of_isDigit h) h

theorem lowerChar_of_isPlain {c : Char} (h : isPlain c = true) : lowerChar c = [c] := by
  simp only [isPlain, Bool.and_eq_true, decide_eq_true_eq, beq_iff_eq] at h
  rw [lowerChar_eq_toLower h.1.1.1, h.1.1.2]

theorem Combinator.all_isPlain_keyword (f : Combinator) : f.keyword.toList.all isPlain = true := by
  cases f <;> decide

theorem isFixed_of_isRelationMark {c : Char} (h : isRelationMark c = true) : isFixed c = true := by
  obtain (rfl | rfl) | rfl : (c = '<' ∨ c = '>') ∨ c = '=' := by simpa [isRelationMark] using h
  all_goals decide

theorem isFixed_of_isBracket {c : Char} (h : isBracket c = true) : isFixed c = true := by
  obtain rfl | rfl : c = '(' ∨ c = ')' := by simpa [isBracket] using h
  all_goals decide

namespace Expr

/-- Whether an expression can be written so that it is read again. -/
def Renderable (e : Expr) : Prop := ∀ t ∈ e.tokens, t.Renderable

theorem renderable_call {f : Combinator} {left right : Expr} :
    (Expr.call f left right).Renderable ↔ left.Renderable ∧ right.Renderable := by
  simp [Renderable, tokens, Token.Renderable, or_imp, forall_and]

theorem renderable_leaf {l : Leaf} : (Expr.leaf l).Renderable ↔ (Token.leaf l).Renderable := by
  simp [Renderable, tokens]

/-- The characters of a written expression. -/
def writing (e : Expr) : List Char := e.glyphs.map Glyph.char

theorem writing_call (f : Combinator) (left right : Expr) :
    (Expr.call f left right).writing =
      f.keyword.toList ++ '(' :: (left.writing ++ ',' :: (right.writing ++ [')'])) := by
  simp [writing, glyphs]

theorem writing_number {value : Value} (h : 0 ≤ value.toInt) :
    (Expr.leaf (.number value)).writing = decimal value.toInt.toNat := by
  simp [writing, glyphs, Leaf.glyphs, Value.toList_text h]

theorem writing_count (needle : String) :
    (Expr.leaf (.count needle)).writing =
      countKeyword.toList ++ '(' :: '\'' :: (needle.toList ++ ['\'', ')']) := by
  simp [writing, glyphs, Leaf.glyphs]

variable {e : Expr}

/-- Beside the texts to count, an expression is written with plain characters. -/
theorem of_mem_writing (he : e.Renderable) {c : Char} (h : c ∈ e.writing) :
    isPlain c = true ∨ ∃ needle, Token.leaf (.count needle) ∈ e.tokens ∧ c ∈ needle.toList := by
  induction e with
  | leaf l =>
    cases l with
    | number value =>
      rw [writing_number (renderable_leaf.mp he)] at h
      exact .inl (isPlain_of_isDigit ((isDecimal_iff.mp (isDecimal_decimal _)).2 c h))
    | count needle =>
      simp only [writing_count, List.mem_append, List.mem_cons, List.not_mem_nil, or_false] at h
      rcases h with h | rfl | rfl | h | rfl | rfl
      · have hkeyword : countKeyword.toList.all isPlain = true := by decide
        exact .inl (List.all_eq_true.mp hkeyword c h)
      · exact .inl (by decide)
      · exact .inl (by decide)
      · exact .inr ⟨needle, List.mem_singleton_self _, h⟩
      · exact .inl (by decide)
      · exact .inl (by decide)
    | total =>
      have hkeyword : (Expr.leaf .total).writing.all isPlain = true := by decide
      exact .inl (List.all_eq_true.mp hkeyword c h)
    | average =>
      have hkeyword : (Expr.leaf .average).writing.all isPlain = true := by decide
      exact .inl (List.all_eq_true.mp hkeyword c h)
  | call f left right ihl ihr =>
    obtain ⟨hleft, hright⟩ := renderable_call.mp he
    simp only [writing_call, List.mem_append, List.mem_cons, List.not_mem_nil, or_false] at h
    -- the name, the arguments, and a bracket or the comma around them
    rcases h with h | rfl | h | rfl | h | rfl
    · exact .inl (List.all_eq_true.mp f.all_isPlain_keyword c h)
    · exact .inl (by decide)
    · refine (ihl hleft h).imp_right fun ⟨needle, hneedle, hc⟩ => ⟨needle, ?_, hc⟩
      exact List.mem_cons_of_mem _ (List.mem_append_left _ hneedle)
    · exact .inl (by decide)
    · refine (ihr hright h).imp_right fun ⟨needle, hneedle, hc⟩ => ⟨needle, ?_, hc⟩
      exact List.mem_cons_of_mem _ (List.mem_append_right _ hneedle)
    · exact .inl (by decide)

/-- An expression is written in lower case. -/
theorem lowerChar_of_mem_glyphs (he : e.Renderable) {g : Glyph} (h : g ∈ e.glyphs) :
    lowerChar g.char = [g.char] := by
  rcases of_mem_writing he (List.mem_map_of_mem h) with hplain | ⟨needle, hneedle, hc⟩
  · exact lowerChar_of_isPlain hplain
  · have hcountable : Countable needle.toList := he _ hneedle
    exact lowerCase_eq_self_iff.mp hcountable.lower _ hc

/-- The first and the last character of a written expression belong to no sign. -/
theorem isPlain_of_head? (he : e.Renderable) {c : Char} (h : e.writing.head? = some c) :
    isPlain c = true := by
  cases e with
  | leaf l =>
    cases l with
    | count needle =>
      obtain rfl : 'c' = c := by simpa [writing_count, countKeyword] using h
      decide
    | number _ | total | average =>
      rcases of_mem_writing he (List.mem_of_mem_head? h) with hplain | ⟨needle, hneedle, -⟩
      · exact hplain
      · simp [tokens] at hneedle
  | call f left right =>
    rw [writing_call, List.head?_append] at h
    cases hfirst : f.keyword.toList.head? with
    | none => cases f <;> cases hfirst
    | some d =>
      obtain rfl : d = c := by simpa [hfirst] using h
      exact List.all_eq_true.mp f.all_isPlain_keyword d (List.mem_of_mem_head? hfirst)

theorem isPlain_of_getLast? (he : e.Renderable) {c : Char} (h : e.writing.getLast? = some c) :
    isPlain c = true := by
  cases e with
  | leaf l =>
    cases l with
    | count needle =>
      have hends : (Expr.leaf (.count needle)).writing =
          (countKeyword.toList ++ '(' :: '\'' :: (needle.toList ++ ['\''])) ++ [')'] := by
        simp [writing_count]
      rw [hends, List.getLast?_concat, Option.some.injEq] at h
      exact h ▸ by decide
    | number _ | total | average =>
      rcases of_mem_writing he (List.mem_of_mem_getLast? h) with hplain | ⟨needle, hneedle, -⟩
      · exact hplain
      · simp [tokens] at hneedle
  | call f left right =>
    have hends : (Expr.call f left right).writing =
        (f.keyword.toList ++ '(' :: (left.writing ++ ',' :: right.writing)) ++ [')'] := by
      simp [writing_call]
    rw [hends, List.getLast?_concat, Option.some.injEq] at h
    exact h ▸ by decide

end Expr

/-! ### What the reader finds in a written expression -/

/-- The words of a text without its fillers. -/
def keptWords (text : List Char) : List (List Char) := words (text.filter fun c => !isFiller c)

theorem keptWords_append_cons {c : Char} (hc : isDelimiter c = true) (before after : List Char) :
    keptWords (before ++ c :: after) = keptWords before ++ keptWords after := by
  have hkept : isFiller c = false := by
    obtain (rfl | rfl) | rfl : (c = ',' ∨ c = '(') ∨ c = ')' := by simpa [isDelimiter] using hc
    all_goals decide
  rw [keptWords, List.filter_append, List.filter_cons, if_pos (by simp [hkept]), words,
    pieces_append_cons hc]
  rfl

theorem keptWords_append_filler {c : Char} (hc : isFiller c = true) (before after : List Char) :
    keptWords (before ++ c :: after) = keptWords (before ++ after) := by
  rw [keptWords, List.filter_append, List.filter_cons, if_neg (by simp [hc]), ← List.filter_append]
  rfl

/-- A text of which the reader drops nothing and which it does not cut is one word. -/
theorem keptWords_of_clean {text : List Char} (hne : text ≠ [])
    (h : ∀ c ∈ text, isFiller c = false ∧ isDelimiter c = false) : keptWords text = [text] := by
  have hkept : text.filter (fun c => !isFiller c) = text := by
    rw [List.filter_eq_self]
    intro c hc
    rw [(h c hc).1]
    rfl
  rw [keptWords, hkept, words, pieces_of_forall_not hne fun c hc => (h c hc).2]

/-- A count is written in two words: the brackets cut its name from the text to count, and the
    quotes around this text drop out. -/
theorem keptWords_count {needle : List Char} (hne : needle ≠ [])
    (h : ∀ c ∈ needle, isFiller c = false ∧ isDelimiter c = false) :
    keptWords (countKeyword.toList ++ '(' :: '\'' :: (needle ++ ['\'', ')'])) =
      [countKeyword.toList, needle] := by
  have hopen : isDelimiter '(' = true := by decide
  have hclose : isDelimiter ')' = true := by decide
  have hquote : isFiller '\'' = true := by decide
  have hkeyword : keptWords countKeyword.toList = [countKeyword.toList] := by decide +kernel
  rw [keptWords_append_cons hopen, ← List.nil_append ('\'' :: _), keptWords_append_filler hquote,
    List.nil_append, keptWords_append_filler hquote, keptWords_append_cons hclose, hkeyword,
    keptWords_of_clean hne h]
  rfl

theorem Combinator.keptWords_keyword (f : Combinator) :
    keptWords f.keyword.toList = [f.keyword.toList] := by
  cases f <;> decide +kernel

theorem clean_of_isDigit {c : Char} (h : c.isDigit = true) :
    isFiller c = false ∧ isDelimiter c = false :=
  forall_ascii (P := fun c => c.isDigit = true → isFiller c = false ∧ isDelimiter c = false)
    (by decide +kernel) (ascii_of_isDigit h) h

/-- A text that the reader does not cut has no brackets. -/
theorem filter_isBracket_of_clean {text : List Char}
    (h : ∀ c ∈ text, isFiller c = false ∧ isDelimiter c = false) : text.filter isBracket = [] := by
  rw [List.filter_eq_nil_iff]
  intro c hc
  have hdelimiter := (h c hc).2
  simp only [isDelimiter, Bool.or_eq_false_iff] at hdelimiter
  rw [isBracket, hdelimiter.1.2, hdelimiter.2]
  exact Bool.false_ne_true

namespace Expr

variable {e : Expr}

/-- The words of a written expression are those that write its tokens. -/
theorem keptWords_writing (he : e.Renderable) :
    keptWords e.writing = e.tokens.flatMap Token.words := by
  have hopen : isDelimiter '(' = true := by decide
  have hclose : isDelimiter ')' = true := by decide
  have hcomma : isDelimiter ',' = true := by decide
  induction e with
  | leaf l =>
    cases l with
    | number value =>
      have hnonneg : 0 ≤ value.toInt := renderable_leaf.mp he
      obtain ⟨hne, hdigits⟩ := isDecimal_iff.mp (isDecimal_decimal value.toInt.toNat)
      have hword := keptWords_of_clean hne fun c hc => clean_of_isDigit (hdigits c hc)
      rw [writing_number hnonneg, hword, ← Value.toList_text hnonneg]
      rfl
    | count needle =>
      have hcountable : Countable needle.toList := renderable_leaf.mp he
      rw [writing_count, keptWords_count hcountable.ne_nil hcountable.clean]
      rfl
    | total => decide +kernel
    | average => decide +kernel
  | call f left right ihl ihr =>
    obtain ⟨hleft, hright⟩ := renderable_call.mp he
    rw [writing_call, keptWords_append_cons hopen, keptWords_append_cons hcomma,
      keptWords_append_cons hclose, f.keptWords_keyword, ihl hleft, ihr hright]
    simp [tokens, Token.words, keptWords, words]

/-- The brackets of a written expression are balanced, at any depth. -/
theorem depth?_writing (he : e.Renderable) (depth : Nat) :
    depth? depth e.writing = some depth := by
  -- the arguments of a call stand one bracket deeper
  induction e generalizing depth with
  | leaf l =>
    cases l with
    | number value =>
      have hnonneg : 0 ≤ value.toInt := renderable_leaf.mp he
      have hdigits := (isDecimal_iff.mp (isDecimal_decimal value.toInt.toNat)).2
      rw [writing_number hnonneg]
      exact depth?_of_filter_eq_nil
        (filter_isBracket_of_clean fun c hc => clean_of_isDigit (hdigits c hc)) depth
    | count needle =>
      have hcountable : Countable needle.toList := renderable_leaf.mp he
      have hneedle := depth?_of_filter_eq_nil
        (filter_isBracket_of_clean hcountable.clean) (depth + 1)
      have hkeyword : countKeyword.toList.filter isBracket = [] := by decide
      rw [writing_count, depth?_append, depth?_of_filter_eq_nil hkeyword, Option.bind_some]
      show depth? (depth + 1) (needle.toList ++ ['\'', ')']) = _
      rw [depth?_append, hneedle]
      rfl
    | total => exact depth?_of_filter_eq_nil (by decide) depth
    | average => exact depth?_of_filter_eq_nil (by decide) depth
  | call f left right ihl ihr =>
    obtain ⟨hleft, hright⟩ := renderable_call.mp he
    have hkeyword : f.keyword.toList.filter isBracket = [] := by cases f <;> decide
    rw [writing_call, depth?_append, depth?_of_filter_eq_nil hkeyword, Option.bind_some]
    show depth? (depth + 1) (left.writing ++ ',' :: (right.writing ++ [')'])) = _
    rw [depth?_append, ihl hleft, Option.bind_some]
    show depth? (depth + 1) (right.writing ++ [')']) = _
    rw [depth?_append, ihr hright]
    rfl

end Expr

/-! ### From the writing to the rule -/

/-- A text that spells an expression is read as its tokens. -/
theorem Operand.parse_of_spells {e : Expr} (he : e.Renderable) {text : List Char}
    (h : Spells e.glyphs text) : Operand.parse (String.ofList text) = .ok e.tokens := by
  have hwords : words (normalize text) = e.tokens.flatMap Token.words := by
    rw [h.normalize_eq fun g hg => Expr.lowerChar_of_mem_glyphs he hg]
    exact Expr.keptWords_writing he
  rw [parse_eq_ok_iff, read_eq_ok_iff, String.toList_ofList, hwords]
  refine ⟨⟨?_, e.tokens_ne_nil⟩, check_eq_ok_iff.mpr ⟨e, rfl⟩⟩
  exact scanWords_flatMap_words fun t ht => (he t ht).proper

theorem Expr.glyphs_ne_nil {e : Expr} (he : e.Renderable) : e.glyphs ≠ [] := by
  intro hnil
  -- the expression has tokens, and from nothing none would be read
  have hwords := keptWords_writing he
  rw [writing, hnil] at hwords
  have hread := scanWords_flatMap_words fun t ht => (he t ht).proper
  rw [← hwords] at hread
  exact e.tokens_ne_nil (Except.ok.inj hread).symm

/-- The sides of a written rule are cut at the sign that was written. -/
theorem cut_of_spells {left right : Expr} (relation : Relation) (hleft : left.Renderable)
    (hright : right.Renderable)
    (hunmarked : ∀ needle, Token.leaf (.count needle) ∈ left.tokens →
      ∀ c ∈ needle.toList, isRelationMark c = false)
    {leftText rightText : List Char} (hl : Spells left.glyphs leftText)
    (hr : Spells right.glyphs rightText) :
    Cut (leftText ++ relation.symbol.toList ++ rightText) leftText relation rightText where
  text_eq := rfl
  left_unmarked c hc := by
    by_contra hmark
    rw [Bool.not_eq_false] at hmark
    have hfixed : isFixed c = true := isFixed_of_isRelationMark hmark
    -- a mark is no filler, so it was written as such, and not in a text to count
    rcases hl.of_mem hc with hfiller | ⟨g, hg, hallows⟩
    · simp [isFixed, hfiller] at hfixed
    · obtain rfl := Glyph.eq_of_isFixed hallows hfixed
      have hchar := Expr.of_mem_writing hleft (List.mem_map_of_mem hg)
      rcases hchar with hplain | ⟨needle, hneedle, hmem⟩
      · simp [isPlain, hmark] at hplain
      · rw [hunmarked needle hneedle _ hmem] at hmark
        cases hmark
  left_not_negating _ hlast := by
    rcases hl.of_getLast? hlast with hfiller | ⟨g, hg, hallows⟩
    · revert hfiller
      decide
    · have hchar : g.char = '!' := Glyph.eq_of_isFixed hallows (by decide)
      have hplain := Expr.isPlain_of_getLast? (c := '!') hleft (by simp [Expr.writing, hg, hchar])
      revert hplain
      decide
  right_not_widening _ hfirst := by
    rcases hr.of_head? hfirst with hfiller | ⟨g, hg, hallows⟩
    · revert hfiller
      decide
    · have hchar : g.char = '=' := Glyph.eq_of_isFixed hallows (by decide)
      have hplain := Expr.isPlain_of_head? (c := '=') hright (by simp [Expr.writing, hg, hchar])
      revert hplain
      decide

namespace Rule

/-- **A written rule is read again**, whatever freedom was taken in writing it. -/
theorem parse_of_spells {rule : Rule} (h : rule.Renderable) {text : String}
    (hspells : Spells rule.glyphs text.toList) : Rule.parse text = .ok rule := by
  obtain ⟨left, hleft⟩ := Operand.check_eq_ok_iff.mp h.left_check
  obtain ⟨right, hright⟩ := Operand.check_eq_ok_iff.mp h.right_check
  have hl : left.Renderable := fun t ht => h.left t (hleft ▸ ht)
  have hr : right.Renderable := fun t ht => h.right t (hright ▸ ht)
  have hunmarked := h.left_unmarked
  rw [← hleft] at hunmarked
  rw [glyphs, ← hleft, ← hright, Operand.glyphs_tokens, Operand.glyphs_tokens] at hspells
  have hbalanced : balanced text = true := by
    -- a text has the brackets that were written, and only they count
    have hbrackets := hspells.filter_eq (p := isBracket) fun c hc => isFixed_of_isBracket hc
    have hsign : (rule.relation.glyphs.map Glyph.char).filter isBracket = [] := by
      cases rule.relation <;> decide
    have hdepth : depth? 0 text.toList = some 0 := by
      rw [← depth?_filter_isBracket, hbrackets, depth?_filter_isBracket, List.map_append,
        List.map_append, ← Expr.writing, ← Expr.writing, depth?_append, depth?_append,
        Expr.depth?_writing hl, Option.bind_some, depth?_of_filter_eq_nil hsign,
        Option.bind_some, Expr.depth?_writing hr]
    rw [balanced, hdepth]
    rfl
  rw [List.append_assoc] at hspells
  obtain ⟨first, second, htext, hfirst, hsecond⟩ := hspells.of_append
  obtain ⟨filler, rightText, hfiller, rfl, hrightText⟩ := hsecond.of_relation
  -- fillers before the sign belong to the left side
  have hleftText := hfirst.append_filler hfiller
  rw [parse_eq_ok_iff]
  refine ⟨hbalanced, first ++ filler, rightText, ?_, ?_, ?_, ?_⟩
  · rw [splitAtRelation?_eq_some_iff, htext]
    have hcut := cut_of_spells rule.relation hl hr hunmarked hleftText hrightText
    simpa using hcut
  · rintro rfl
    exact Expr.glyphs_ne_nil hr hrightText.eq_nil
  · rw [← hleft]
    exact Operand.parse_of_spells hl hleftText
  · rw [← hright]
    exact Operand.parse_of_spells hr hrightText

end Rule

/-! ### From the rule to the writing -/

section Read

variable {text : String} {tokens : Operand}

/-- A text to count that was read is one of the words of the text it was read from. -/
theorem mem_words_of_count_mem_read (h : Operand.read text = .ok tokens) {needle : String}
    (hneedle : Token.leaf (.count needle) ∈ tokens) :
    needle.toList ∈ words (normalize text.toList) := by
  obtain ⟨word, hword, heq | hread⟩ := Operand.of_mem_read h hneedle
  · obtain rfl : needle = String.ofList word := by simpa using heq
    rwa [String.toList_ofList]
  · -- a word that is read by itself is nothing to count
    rcases readWord_eq_ok_iff.mp hread with hkeyword | ⟨-, value, -, heq⟩
    · obtain ⟨f, heq⟩ | heq | heq := Token.eq_of_ofKeyword? hkeyword <;> cases heq
    · cases heq

theorem countable_of_mem_words {word : List Char} {text : List Char}
    (h : word ∈ words (normalize text)) : Countable word where
  ne_nil := (of_mem_pieces h).1
  lower := by
    rw [lowerCase_eq_self_iff]
    intro c hc
    have hkept := ((of_mem_pieces h).2 c hc).1
    rw [normalize_eq_filter] at hkept
    exact lowerChar_of_mem_lowerCase (List.mem_filter.mp hkept).1
  clean c hc := by
    obtain ⟨hkept, hdelimiter⟩ := (of_mem_pieces h).2 c hc
    rw [normalize_eq_filter] at hkept
    exact ⟨by simpa using (List.mem_filter.mp hkept).2, hdelimiter⟩

/-- Every token that was read can be written. -/
theorem Operand.renderable_of_read (h : Operand.read text = .ok tokens) {t : Token}
    (ht : t ∈ tokens) : t.Renderable := by
  cases t with
  | call f => trivial
  | leaf l =>
    cases l with
    | number value => exact Operand.proper_of_read h ht
    | count needle => exact countable_of_mem_words (mem_words_of_count_mem_read h ht)
    | total => trivial
    | average => trivial

end Read

namespace Rule

/-- **Every rule that was read can be written.** -/
theorem renderable_of_parse {text : String} {rule : Rule} (h : Rule.parse text = .ok rule) :
    rule.Renderable := by
  obtain ⟨-, left, right, hsplit, -, hleft, hright⟩ := parse_eq_ok_iff.mp h
  obtain ⟨hreadLeft, hcheckLeft⟩ := Operand.parse_eq_ok_iff.mp hleft
  obtain ⟨hreadRight, hcheckRight⟩ := Operand.parse_eq_ok_iff.mp hright
  refine ⟨hcheckLeft, hcheckRight, fun t ht => Operand.renderable_of_read hreadLeft ht,
    fun t ht => Operand.renderable_of_read hreadRight ht, fun needle hneedle c hc => ?_⟩
  have hword := mem_words_of_count_mem_read hreadLeft hneedle
  have hkept := ((of_mem_pieces hword).2 c hc).1
  rw [normalize_eq_filter, String.toList_ofList] at hkept
  -- lower-casing makes no mark, and there is none in front of the sign
  rcases mem_or_le_of_mem_lowerCase (List.mem_filter.mp hkept).1 with hmem | hle
  · exact (splitAtRelation?_eq_some_iff.mp hsplit).left_unmarked c hmem
  · by_contra hmark
    rw [Bool.not_eq_false] at hmark
    have hfixed := isFixed_of_isRelationMark hmark
    simp only [isFixed, Bool.and_eq_true, decide_eq_true_eq] at hfixed
    omega

/-- **Reading undoes writing.** A rule that can be written is read from every text that spells it,
    and the rules that are read from texts are exactly those that can be written. -/
theorem parse_undoes_writing (rule : Rule) :
    (rule.Renderable → ∀ text : String, Spells rule.glyphs text.toList →
      Rule.parse text = .ok rule) ∧
    ((∃ text, Rule.parse text = .ok rule) ↔ rule.Renderable) := by
  refine ⟨fun h text hspells => parse_of_spells h hspells, ?_, fun h => ?_⟩
  · rintro ⟨text, h⟩
    exact renderable_of_parse h
  · refine ⟨String.ofList (rule.glyphs.map Glyph.char), parse_of_spells h ?_⟩
    rw [String.toList_ofList]
    exact Spells.refl rule.glyphs

/-- A keyword and a number can be counted, and on the right a sign as well. -/
theorem parse_undoes_decorated_writing :
    Rule.parse " MAX( \"Count\"( 'm''ax' ) , count('4 2')) >= count('<=') " =
      .ok ⟨[.call .max, .leaf (.count "max"), .leaf (.count "42")], .ge,
        [.leaf (.count "<=")]⟩ := by
  have hcountable : ∀ needle ∈ ["max", "42", "<="],
      needle.toList ∈ words (normalize needle.toList) := by
    decide +kernel
  simp only [List.forall_mem_cons] at hcountable
  obtain ⟨hmax, hnumber, hsign, -⟩ := hcountable
  refine (parse_undoes_writing _).1 ⟨rfl, rfl, ?_, ?_, ?_⟩ _ (by decide +kernel)
  · simpa [Token.Renderable] using ⟨countable_of_mem_words hmax, countable_of_mem_words hnumber⟩
  · simpa [Token.Renderable] using countable_of_mem_words hsign
  · intro needle hneedle
    obtain rfl | rfl : needle = "max" ∨ needle = "42" := by simpa using hneedle
    · simp [isRelationMark]
    · simp [isRelationMark]

end Rule

end TextRules
