import TextRules.Proofs.LowerCase
import TextRules.Proofs.Shape
import TextRules.Proofs.Words
import TextRules.Rule

namespace TextRules

/-!
# Writing rules

A rule is written with its operands as nested calls, such as `max(count('a'),3)`, and the sign of
its relation between them.  A writer has some freedom: the letters of functions and keywords may be
capitals, and blanks and quotes may stand anywhere but inside a sign.  So a rule is written as a
list of glyphs (`Rule.glyphs`), which are characters that know about this freedom, and a text spells
the glyphs if it uses no other (`Spells`).

The reader undoes the freedom: what it makes of a text that spells some glyphs can be told from the
glyphs alone (`Spells.normalize_eq`, `Spells.depth?_eq`).
-/

/-! ### Glyphs -/

/-- A character of a written rule. -/
structure Glyph where
  char : Char
  /-- Whether a letter may be a capital. -/
  anyCase : Bool
  /-- Whether nothing may be put before it. -/
  joined : Bool

/-- The glyphs of a word that may be written in capitals. -/
def wordGlyphs (word : String) : List Glyph := word.toList.map fun c => ⟨c, true, false⟩

/-- The glyphs of a text that is written as it is. -/
def plainGlyphs (text : List Char) : List Glyph := text.map fun c => ⟨c, false, false⟩

/-- A leaf as it is written. -/
def Leaf.glyphs : Leaf → List Glyph
  | .number value => plainGlyphs value.text.toList
  | .count needle =>
    wordGlyphs countKeyword ++ plainGlyphs ('(' :: '\'' :: (needle.toList ++ ['\'', ')']))
  | .total => wordGlyphs totalKeyword
  | .average => wordGlyphs averageKeyword

/-- An expression as it is written: a function before its arguments, which stand in brackets. -/
def Expr.glyphs : Expr → List Glyph
  | .leaf l => l.glyphs
  | .call f left right =>
    wordGlyphs f.keyword ++ plainGlyphs ['('] ++ left.glyphs ++ plainGlyphs [','] ++
      right.glyphs ++ plainGlyphs [')']

/-- The sign of a relation as it is written.  Nothing may stand between its characters. -/
def Relation.glyphs (r : Relation) : List Glyph :=
  plainGlyphs (r.symbol.toList.take 1) ++ (r.symbol.toList.drop 1).map fun c => ⟨c, false, true⟩

/-- A well-formed operand as it is written. -/
def Operand.glyphs (tokens : Operand) : List Glyph :=
  match Operand.tree tokens with
  | .ok e => e.glyphs
  | .error _ => []

/-- A rule as it is written. -/
def Rule.glyphs (rule : Rule) : List Glyph :=
  Operand.glyphs rule.left ++ rule.relation.glyphs ++ Operand.glyphs rule.right

@[simp] theorem map_char_wordGlyphs (word : String) :
    (wordGlyphs word).map Glyph.char = word.toList := by
  simp [wordGlyphs, Function.comp_def]

@[simp] theorem map_char_plainGlyphs (text : List Char) :
    (plainGlyphs text).map Glyph.char = text := by
  simp [plainGlyphs, Function.comp_def]

theorem Operand.glyphs_tokens (e : Expr) : Operand.glyphs e.tokens = e.glyphs := by
  rw [glyphs, tree_eq_ok_iff.mpr rfl]

example : (Rule.glyphs ⟨[.call .max, .leaf (.count "a"), .leaf (.number 3)], .ge,
    [.leaf .total]⟩).map Glyph.char = "max(count('a'),3)>=sumofallnumberfromstring".toList := by
  decide +kernel

/-! ### Spelling -/

/-- Whether a character may be put between others without a meaning of its own. -/
def isFiller (c : Char) : Bool := isBlank c || isQuote c

/-- Whether a glyph may be written as a character. -/
def Glyph.Allows (g : Glyph) (c : Char) : Prop := c = g.char ∨ g.anyCase = true ∧ c.toLower = g.char

/-- A text spells glyphs if it has a character for each of them, in order, and besides these only
    fillers, none of them before a glyph that is joined to the last one. -/
inductive Spells : List Glyph → List Char → Prop
  | nil {filler : List Char} (hfiller : ∀ c ∈ filler, isFiller c = true) : Spells [] filler
  | cons {g : Glyph} {gs : List Glyph} {filler : List Char} {c : Char} {rest : List Char}
      (hfiller : ∀ d ∈ filler, isFiller d = true) (hjoined : g.joined = true → filler = [])
      (hc : g.Allows c) (h : Spells gs rest) : Spells (g :: gs) (filler ++ c :: rest)

theorem normalize_eq_filter (text : List Char) :
    normalize text = (lowerCase text).filter fun c => !isFiller c := by
  simp [normalize, isFiller, Bool.not_or]

/-- Whether a character is neither a letter nor a filler: a writer has no freedom with it. -/
def isFixed (c : Char) : Bool := c.toNat < 0x61 && c.toLower == c && !isFiller c

namespace Glyph

variable {g : Glyph} {c : Char}

/-- A fixed character is written for itself only. -/
theorem eq_of_isFixed (h : g.Allows c) (hc : isFixed c = true) : g.char = c := by
  simp only [isFixed, Bool.and_eq_true, beq_iff_eq] at hc
  rcases h with rfl | ⟨-, h⟩
  · rfl
  · rw [← h, hc.1.2]

theorem eq_of_isFixed_char (h : g.Allows c) (hg : isFixed g.char = true) : c = g.char := by
  rcases h with rfl | ⟨-, h⟩
  · rfl
  · simp only [isFixed, Bool.and_eq_true, decide_eq_true_eq] at hg
    rcases toLower_eq_or_le c with hsame | hle
    · rw [← hsame, h]
    · rw [h] at hle
      omega

theorem eq_of_anyCase_eq_false (h : g.Allows c) (hg : g.anyCase = false) : c = g.char := by
  rcases h with h | ⟨hany, -⟩
  · exact h
  · rw [hg] at hany
    cases hany

/-- A character is in lower case as the glyph it is written for. -/
theorem lowerChar_of_allows (h : g.Allows c) (hg : lowerChar g.char = [g.char]) :
    lowerChar c = [g.char] := by
  rcases h with rfl | ⟨-, h⟩
  · exact hg
  · exact lowerChar_of_toLower h hg

end Glyph

theorem lowerChar_of_isFiller {c : Char} (h : isFiller c = true) : lowerChar c = [c] := by
  rcases Bool.or_eq_true _ _ ▸ h with hblank | hquote
  · exact lowerChar_of_isBlank hblank
  · exact lowerChar_of_isQuote hquote

/-- The reader drops fillers. -/
theorem filter_flatMap_lowerChar {filler : List Char} (h : ∀ c ∈ filler, isFiller c = true) :
    (filler.flatMap lowerChar).filter (fun c => !isFiller c) = [] := by
  rw [List.filter_eq_nil_iff]
  intro c hc
  obtain ⟨d, hd, hcd⟩ := List.mem_flatMap.mp hc
  rw [lowerChar_of_isFiller (h d hd), List.mem_singleton] at hcd
  simp [hcd, h d hd]

namespace Spells

variable {gs gs' : List Glyph} {text : List Char}

/-- A text that spells a glyph and others has a character for it behind fillers. -/
theorem of_cons {g : Glyph} (h : Spells (g :: gs) text) : ∃ filler c rest,
    text = filler ++ c :: rest ∧ (∀ d ∈ filler, isFiller d = true) ∧
      (g.joined = true → filler = []) ∧ g.Allows c ∧ Spells gs rest := by
  cases h with
  | cons hfiller hjoined hc h => exact ⟨_, _, _, rfl, hfiller, hjoined, hc, h⟩

/-- Glyphs are spelled as their characters. -/
theorem refl (gs : List Glyph) : Spells gs (gs.map Glyph.char) := by
  induction gs with
  | nil => exact .nil (by simp)
  | cons g gs ih =>
    show Spells (g :: gs) ([] ++ g.char :: gs.map Glyph.char)
    exact .cons (by simp) (fun _ => rfl) (.inl rfl) ih

/-- A text that spells two lists of glyphs falls into two parts. -/
theorem of_append (h : Spells (gs ++ gs') text) :
    ∃ first second, text = first ++ second ∧ Spells gs first ∧ Spells gs' second := by
  induction gs generalizing text with
  | nil => exact ⟨[], text, rfl, .nil (by simp), h⟩
  | cons g gs ih =>
    obtain ⟨filler, c, rest, rfl, hfiller, hjoined, hc, hrest⟩ := Spells.of_cons h
    obtain ⟨first, second, rfl, hfirst, hsecond⟩ := ih hrest
    exact ⟨filler ++ c :: first, second, by simp, .cons hfiller hjoined hc hfirst, hsecond⟩

/-- Joined glyphs are spelled at the very start. -/
theorem of_joined {sign : List Char}
    (h : Spells (sign.map (fun c => (⟨c, false, true⟩ : Glyph)) ++ gs) text) :
    ∃ rest, text = sign ++ rest ∧ Spells gs rest := by
  induction sign generalizing text with
  | nil => exact ⟨text, rfl, h⟩
  | cons c sign ih =>
    obtain ⟨filler, d, after, rfl, -, hjoined, hd, hafter⟩ := h.of_cons
    obtain rfl := hjoined rfl
    obtain rfl : d = c := Glyph.eq_of_anyCase_eq_false hd rfl
    obtain ⟨rest, rfl, hrest⟩ := ih hafter
    exact ⟨rest, rfl, hrest⟩

/-- The sign of a relation stands in one piece behind fillers. -/
theorem of_relation {r : Relation} (h : Spells (r.glyphs ++ gs) text) :
    ∃ filler rest, (∀ c ∈ filler, isFiller c = true) ∧
      text = filler ++ r.symbol.toList ++ rest ∧ Spells gs rest := by
  obtain ⟨c, sign, hsymbol⟩ : ∃ c sign, r.symbol.toList = c :: sign := by
    cases r <;> exact ⟨_, _, rfl⟩
  rw [Relation.glyphs, hsymbol] at h
  obtain ⟨filler, d, after, rfl, hfiller, -, hd, hafter⟩ := Spells.of_cons h
  obtain rfl : d = c := Glyph.eq_of_anyCase_eq_false hd rfl
  obtain ⟨rest, rfl, hrest⟩ := of_joined hafter
  exact ⟨filler, rest, hfiller, by simp [hsymbol], hrest⟩

/-- Fillers may follow. -/
theorem append_filler (h : Spells gs text) {filler : List Char}
    (hfiller : ∀ c ∈ filler, isFiller c = true) : Spells gs (text ++ filler) := by
  induction h with
  | nil hbefore =>
    refine .nil fun c hc => ?_
    exact (List.mem_append.mp hc).elim (hbefore c) (hfiller c)
  | cons hbefore hjoined hc _ ih =>
    rw [List.append_assoc, List.cons_append]
    exact .cons hbefore hjoined hc ih

/-- Every character of a text is a filler or stands for a glyph. -/
theorem of_mem (h : Spells gs text) {c : Char} (hc : c ∈ text) :
    isFiller c = true ∨ ∃ g ∈ gs, g.Allows c := by
  induction h with
  | nil hfiller => exact .inl (hfiller c hc)
  | cons hfiller _ hallows _ ih =>
    rcases List.mem_append.mp hc with hc | hc
    · exact .inl (hfiller c hc)
    · rcases List.mem_cons.mp hc with rfl | hc
      · exact .inr ⟨_, List.mem_cons_self, hallows⟩
      · refine (ih hc).imp_right fun ⟨g, hg, hallows⟩ => ?_
        exact ⟨g, List.mem_cons_of_mem _ hg, hallows⟩

/-- The first character is a filler or stands for the first glyph. -/
theorem of_head? (h : Spells gs text) {c : Char} (hc : text.head? = some c) :
    isFiller c = true ∨ ∃ g, gs.head? = some g ∧ g.Allows c := by
  cases h with
  | nil hfiller => exact .inl (hfiller c (List.mem_of_mem_head? hc))
  | @cons g gs filler d rest hfiller _ hallows _ =>
    cases filler with
    | nil =>
      obtain rfl : d = c := by simpa using hc
      exact .inr ⟨g, rfl, hallows⟩
    | cons e filler =>
      obtain rfl : e = c := by simpa using hc
      exact .inl (hfiller e List.mem_cons_self)

theorem eq_nil (h : Spells gs []) : gs = [] := by
  generalize htext : [] = text at h
  cases h with
  | nil => rfl
  | cons => simp at htext

/-- The last character is a filler or stands for the last glyph. -/
theorem of_getLast? (h : Spells gs text) {c : Char} (hc : text.getLast? = some c) :
    isFiller c = true ∨ ∃ g, gs.getLast? = some g ∧ g.Allows c := by
  induction h with
  | nil hfiller => exact .inl (hfiller c (List.mem_of_mem_getLast? hc))
  | @cons g gs filler d rest _ _ hallows h ih =>
    rw [List.getLast?_append, List.getLast?_cons] at hc
    cases hrest : rest.getLast? with
    | none =>
      -- nothing follows the character for `g`
      obtain rfl : d = c := by simpa [hrest] using hc
      obtain rfl := List.getLast?_eq_none_iff.mp hrest
      obtain rfl := h.eq_nil
      exact .inr ⟨g, rfl, hallows⟩
    | some e =>
      obtain rfl : e = c := by simpa [hrest] using hc
      refine (ih hrest).imp_right fun ⟨g', hg', hallows'⟩ => ⟨g', ?_, hallows'⟩
      rw [List.getLast?_cons, hg']
      rfl

/-! ### What the reader makes of a spelling -/

/-- The lower case of a text without its fillers is that of the glyphs. -/
theorem normalize_eq (h : Spells gs text) (hgs : ∀ g ∈ gs, lowerChar g.char = [g.char]) :
    normalize text = (gs.map Glyph.char).filter fun c => !isFiller c := by
  have hsigma : lowerChar 'Σ' ≠ ['Σ'] := by decide +kernel
  have hnot : 'Σ' ∉ text := by
    intro hmem
    rcases h.of_mem hmem with hfiller | ⟨g, hg, hallows⟩
    · exact hsigma (lowerChar_of_isFiller hfiller)
    · -- ASCII has no small letter for it
      have hchar : g.char = 'Σ' := by
        rcases hallows with hchar | ⟨-, hchar⟩
        · exact hchar.symm
        · exact hchar.symm.trans (by decide)
      exact hsigma (hchar ▸ hgs g hg)
  -- without a capital sigma, each character is lower-cased by itself
  rw [normalize_eq_filter, lowerCase_eq_flatMap hnot]
  clear hnot
  induction h with
  | nil hfiller => exact filter_flatMap_lowerChar hfiller
  | @cons g gs filler c rest hfiller _ hallows _ ih =>
    rw [List.forall_mem_cons] at hgs
    have hdropped := filter_flatMap_lowerChar hfiller
    rw [List.flatMap_append, List.filter_append, hdropped, List.nil_append, List.flatMap_cons,
      Glyph.lowerChar_of_allows hallows hgs.1, List.singleton_append, List.map_cons,
      List.filter_cons, List.filter_cons, ih hgs.2]

/-- A text has the fixed characters of its glyphs, in the same order. -/
theorem filter_eq (h : Spells gs text) {p : Char → Bool} (hp : ∀ c, p c = true → isFixed c = true) :
    text.filter p = (gs.map Glyph.char).filter p := by
  have hfiller : ∀ c, isFiller c = true → p c = false := by
    intro c hc
    by_contra hpc
    rw [Bool.not_eq_false] at hpc
    simpa [isFixed, hc] using hp c hpc
  induction h with
  | @nil filler hnil =>
    rw [List.map_nil, List.filter_nil, List.filter_eq_nil_iff]
    intro c hc
    simp [hfiller c (hnil c hc)]
  | @cons g gs filler c rest hcons _ hallows _ ih =>
    have hdropped : filler.filter p = [] := by
      rw [List.filter_eq_nil_iff]
      intro d hd
      simp [hfiller d (hcons d hd)]
    -- a letter is no character of `p` in either case
    have hsame : p c = true → g.char = c := fun hc => Glyph.eq_of_isFixed hallows (hp c hc)
    have hback : p g.char = true → c = g.char := fun hg =>
      Glyph.eq_of_isFixed_char hallows (hp g.char hg)
    rw [List.filter_append, hdropped, List.nil_append, List.map_cons, List.filter_cons,
      List.filter_cons, ih]
    by_cases hc : p c = true
    · rw [hsame hc]
    · have hg : ¬ p g.char = true := fun hg => hc (hback hg ▸ hg)
      rw [if_neg hc, if_neg hg]

end Spells

/-! ### Spelling can be tested -/

instance (g : Glyph) (c : Char) : Decidable (g.Allows c) :=
  inferInstanceAs (Decidable (c = g.char ∨ g.anyCase = true ∧ c.toLower = g.char))

/-- Whether the rest of a text spells glyphs.  Behind a filler the first of them must not be
    joined. -/
def spellsFrom (behindFiller : Bool) (gs : List Glyph) : List Char → Bool
  | [] => gs.isEmpty
  | c :: rest =>
    isFiller c && spellsFrom true gs rest ||
      match gs with
      | [] => false
      | g :: gs => !(behindFiller && g.joined) && decide (g.Allows c) && spellsFrom false gs rest

/-- A filler may be put before a text whose first glyph is not joined. -/
theorem Spells.cons_filler {gs : List Glyph} {text : List Char} {c : Char} (hc : isFiller c = true)
    (h : Spells gs text) (hjoined : ∀ g ∈ gs.head?, g.joined = false) : Spells gs (c :: text) := by
  cases h with
  | nil hfiller => exact .nil (List.forall_mem_cons.mpr ⟨hc, hfiller⟩)
  | @cons g gs filler d rest hfiller _ hd h =>
    have hg : g.joined = false := hjoined g rfl
    rw [← List.cons_append]
    refine .cons (List.forall_mem_cons.mpr ⟨hc, hfiller⟩) ?_ hd h
    rw [hg]
    nofun

theorem spellsFrom_iff {behindFiller : Bool} {gs : List Glyph} {text : List Char} :
    spellsFrom behindFiller gs text = true ↔
      Spells gs text ∧ (behindFiller = true → ∀ g ∈ gs.head?, g.joined = false) := by
  induction text generalizing behindFiller gs with
  | nil =>
    simp only [spellsFrom, List.isEmpty_iff]
    constructor
    · rintro rfl
      exact ⟨.nil (by simp), fun _ => by simp⟩
    · rintro ⟨h, -⟩
      exact h.eq_nil
  | cons c rest ih =>
    simp only [spellsFrom, Bool.or_eq_true, Bool.and_eq_true, ih]
    constructor
    · rintro (⟨hc, h, hjoined⟩ | h)
      · exact ⟨h.cons_filler hc (hjoined trivial), fun _ => hjoined trivial⟩
      · cases gs with
        | nil => cases h
        | cons g gs =>
          simp only [Bool.and_eq_true, ih, decide_eq_true_eq] at h
          obtain ⟨⟨hjoined, hc⟩, h, -⟩ := h
          rw [← List.nil_append (c :: rest)]
          refine ⟨.cons (by simp) (fun _ => rfl) hc h, ?_⟩
          rintro rfl
          simpa using hjoined
    · rintro ⟨h, hjoined⟩
      cases gs with
      | nil =>
        have hfiller : ∀ d ∈ c :: rest, isFiller d = true := fun d hd => by
          simpa using h.of_mem hd
        rw [List.forall_mem_cons] at hfiller
        exact .inl ⟨hfiller.1, .nil hfiller.2, fun _ => by simp⟩
      | cons g gs =>
        obtain ⟨filler, d, after, htext, hfiller, hg, hd, hafter⟩ := h.of_cons
        cases filler with
        | nil =>
          obtain ⟨rfl, rfl⟩ := List.cons.inj htext
          simp only [Bool.and_eq_true, ih, decide_eq_true_eq]
          refine .inr ⟨⟨?_, hd⟩, hafter, by simp⟩
          cases behindFiller with
          | false => rfl
          | true => simpa using hjoined rfl
        | cons e filler =>
          obtain ⟨rfl, rfl⟩ := List.cons.inj htext
          rw [List.forall_mem_cons] at hfiller
          have hnot : g.joined = false := by
            by_contra hg'
            rw [Bool.not_eq_false] at hg'
            cases hg hg'
          refine .inl ⟨hfiller.1, .cons hfiller.2 ?_ hd hafter, fun _ => by simpa using hnot⟩
          rw [hnot]
          nofun

instance (gs : List Glyph) (text : List Char) : Decidable (Spells gs text) :=
  decidable_of_iff (spellsFrom false gs text = true) (by simp [spellsFrom_iff])

end TextRules
