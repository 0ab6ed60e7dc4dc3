import TextRules.Proofs.Fillers
import TextRules.Proofs.TokenTexts

namespace TextRules

/-!
# Operands without their decoration

Blanks, quotes and capital letters are meant to make no difference to the words of an operand.  They
do make one: an operand is lower-cased before its blanks and quotes are dropped, and what surrounds
a capital sigma decides which small sigma comes of it.  Nothing else is lost, though.

* `normalize_eq_normalizeWith` — what is kept of a text is told by the text without its decoration,
  and by which of its capital sigmas end a word.
* `scanWords_map_plainSigma` — the reader of words makes no difference between the small sigmas.
* `Operand.read_of_same_bareText` — two texts that differ in their decoration only are read alike if
  their sigmas end words alike, have the same tokens under no other condition, and are always read
  alike but for the form of small sigmas.
-/

/-! ### Texts without decoration -/

/-- A text without its fillers, and with the capital letters of ASCII made small. -/
def bareText (text : List Char) : List Char := (dropFillers text).map Char.toLower

/-- Which capital sigmas of a text that follows `before` end a word, from left to right. -/
def sigmaEndsAfter (before : List Char) : List Char → List Bool
  | [] => []
  | c :: after =>
    (if c = 'Σ' then [endsWord before after] else []) ++ sigmaEndsAfter (c :: before) after

/-- Which capital sigmas of a text end a word. -/
def sigmaEnds (text : List Char) : List Bool := sigmaEndsAfter [] text

/-- What is kept of a text in lower case when it is known which capital sigmas end a word. -/
def normalizeWith : List Bool → List Char → List Char
  | _, [] => []
  | ends, c :: rest =>
    if c = 'Σ' then (if ends.headD false then 'ς' else 'σ') :: normalizeWith ends.tail rest
    else ((lowerChar c).filter fun d => !isFiller d) ++ normalizeWith ends rest

theorem toLower_eq_sigma_iff {c : Char} : c.toLower = 'Σ' ↔ c = 'Σ' := by
  refine ⟨fun h => ?_, fun h => by rw [h]; decide⟩
  rw [← h]
  refine (toLower_of_not_ascii fun hascii => ?_).symm
  -- the small letters of ASCII are characters of ASCII
  have hsmall : c.toLower.toNat < 128 :=
    forall_ascii (P := fun c => c.toLower.toNat < 128) (by decide +kernel) hascii
  rw [h] at hsmall
  revert hsmall
  decide

theorem lowerChar_toLower (c : Char) : lowerChar c.toLower = lowerChar c := by
  by_cases hc : c.toNat < 128
  · have hlower := lowerChar_eq_toLower hc
    rw [hlower]
    refine lowerChar_of_mem_lowerChar (c := c) ?_
    rw [hlower]
    exact List.mem_singleton_self _
  · rw [toLower_of_not_ascii hc]

theorem bareText_cons_of_isFiller {c : Char} (hc : isFiller c = true) (rest : List Char) :
    bareText (c :: rest) = bareText rest := by
  rw [bareText, dropFillers, List.filter_cons_of_neg (by simp [hc])]
  rfl

theorem bareText_cons {c : Char} (hc : isFiller c = false) (rest : List Char) :
    bareText (c :: rest) = c.toLower :: bareText rest := by
  rw [bareText, dropFillers, List.filter_cons_of_pos (by simp [hc]), List.map_cons]
  rfl

theorem filter_lowerAfter (before text : List Char) :
    (lowerAfter before text).filter (fun c => !isFiller c) =
      normalizeWith (sigmaEndsAfter before text) (bareText text) := by
  induction text generalizing before with
  | nil => rfl
  | cons c rest ih =>
    rw [lowerAfter, sigmaEndsAfter, List.filter_append, ih]
    by_cases hsigma : c = 'Σ'
    · -- both forms of the small sigma are kept
      subst hsigma
      rw [bareText_cons (by decide), toLower_eq_sigma_iff.mpr rfl, normalizeWith, if_pos rfl,
        if_pos rfl, if_pos rfl, List.singleton_append, List.headD_cons, List.tail_cons]
      cases endsWord before rest <;> rfl
    · rw [if_neg hsigma, if_neg hsigma, List.nil_append]
      by_cases hfiller : isFiller c = true
      · rw [bareText_cons_of_isFiller hfiller, lowerChar_of_isFiller hfiller,
          List.filter_cons_of_neg (by simp [hfiller])]
        rfl
      · rw [bareText_cons (by simpa using hfiller), normalizeWith,
          if_neg (mt toLower_eq_sigma_iff.mp hsigma), lowerChar_toLower]

/-- What is kept of a text depends on its decoration only in the ends of words. -/
theorem normalize_eq_normalizeWith (text : List Char) :
    normalize text = normalizeWith (sigmaEnds text) (bareText text) := by
  rw [normalize_eq_filter]
  exact filter_lowerAfter [] text

theorem length_sigmaEndsAfter (before text : List Char) :
    (sigmaEndsAfter before text).length = (bareText text).count 'Σ' := by
  induction text generalizing before with
  | nil => rfl
  | cons c rest ih =>
    rw [sigmaEndsAfter, List.length_append, ih]
    by_cases hsigma : c = 'Σ'
    · subst hsigma
      rw [bareText_cons (by decide), toLower_eq_sigma_iff.mpr rfl, List.count_cons_self,
        if_pos rfl, List.length_singleton, Nat.add_comm]
    · rw [if_neg hsigma, List.length_nil, Nat.zero_add]
      by_cases hfiller : isFiller c = true
      · rw [bareText_cons_of_isFiller hfiller]
      · rw [bareText_cons (by simpa using hfiller),
          List.count_cons_of_ne (mt toLower_eq_sigma_iff.mp hsigma)]

/-- The kept text tells which sigmas end a word. -/
theorem eq_of_normalizeWith_eq {text : List Char} {ends ends' : List Bool}
    (hlength : ends.length = text.count 'Σ') (hlength' : ends'.length = text.count 'Σ')
    (h : normalizeWith ends text = normalizeWith ends' text) : ends = ends' := by
  induction text generalizing ends ends' with
  | nil =>
    rw [List.eq_nil_of_length_eq_zero hlength, List.eq_nil_of_length_eq_zero hlength']
  | cons c rest ih =>
    rw [normalizeWith, normalizeWith] at h
    by_cases hsigma : c = 'Σ'
    · subst hsigma
      rw [List.count_cons_self] at hlength hlength'
      obtain ⟨e, ends, rfl⟩ := List.exists_cons_of_length_eq_add_one hlength
      obtain ⟨e', ends', rfl⟩ := List.exists_cons_of_length_eq_add_one hlength'
      -- the small sigma that is kept tells whether this one ends a word
      rw [if_pos rfl, if_pos rfl] at h
      obtain ⟨hhead, htail⟩ := List.cons.inj h
      rw [ih (Nat.succ.inj hlength) (Nat.succ.inj hlength') htail]
      cases e <;> cases e' <;> simp at hhead ⊢
    · rw [List.count_cons_of_ne hsigma] at hlength hlength'
      rw [if_neg hsigma, if_neg hsigma] at h
      exact ih hlength hlength' (List.append_cancel_left h)

/-! ### One small sigma for both -/

/-- A character, or `σ` in place of its final form. -/
def plainSigma (c : Char) : Char := if c = 'ς' then 'σ' else c

theorem map_plainSigma_normalizeWith (ends ends' : List Bool) (text : List Char) :
    (normalizeWith ends text).map plainSigma = (normalizeWith ends' text).map plainSigma := by
  induction text generalizing ends ends' with
  | nil => rfl
  | cons c rest ih =>
    rw [normalizeWith, normalizeWith]
    by_cases hsigma : c = 'Σ'
    · have hsmall : ∀ final : Bool, plainSigma (if final = true then 'ς' else 'σ') = 'σ' := by
        decide
      rw [if_pos hsigma, if_pos hsigma, List.map_cons, List.map_cons, hsmall, hsmall, ih]
    · rw [if_neg hsigma, if_neg hsigma, List.map_append, List.map_append, ih]

theorem isDelimiter_plainSigma (c : Char) : isDelimiter (plainSigma c) = isDelimiter c := by
  unfold plainSigma
  split
  next h => rw [h]; decide
  next => rfl

theorem map_plainSigma_of_not_mem {word : List Char} (h : 'ς' ∉ word) :
    word.map plainSigma = word := by
  conv => rhs; rw [← List.map_id word]
  refine List.map_congr_left fun c hc => if_neg ?_
  rintro rfl
  exact h hc

/-- A text with `σ` for each final sigma. -/
def plainText (text : String) : String := String.ofList (text.toList.map plainSigma)

/-- A token with `σ` for each final sigma. -/
def Token.plain : Token → Token
  | .leaf (.count needle) => .leaf (.count (plainText needle))
  | t => t

/-- A word error with `σ` for each final sigma. -/
def WordError.plain : WordError → WordError
  | .unknownWord word => .unknownWord (plainText word)
  | cause => cause

/-- The outcome of reading an operand, with `σ` for each final sigma. -/
def plainOutcome (outcome : Except WordError Operand) : Except WordError Operand :=
  (outcome.map fun tokens => tokens.map Token.plain).mapError WordError.plain

/-! ### Words with small sigmas -/

section Words

variable {word : List Char} {t : Token} {ws ws' : List (List Char)} {tokens : List Token}

theorem StandsFor.all_isPlain (h : StandsFor word t) : word.all isPlain = true := by
  cases h with
  | call f => exact f.all_isPlain_keyword
  | total => decide +kernel
  | average => decide +kernel
  | number hword =>
    rw [List.all_eq_true]
    exact fun c hc => isPlain_of_isDigit ((isDecimal_iff.mp hword).2 c hc)

/-- No word with a small sigma in it stands for anything. -/
theorem not_standsFor_of_mem {c : Char} (hc : c ∈ word) (hplain : isPlain c = false) (t : Token) :
    ¬StandsFor word t := by
  intro h
  rw [List.all_eq_true.mp h.all_isPlain c hc] at hplain
  cases hplain

theorem StandsFor.map_plainSigma (h : StandsFor word t) : word.map plainSigma = word :=
  map_plainSigma_of_not_mem fun hc => not_standsFor_of_mem hc (by decide) t h

theorem StandsFor.plain_eq (h : StandsFor word t) : t.plain = t := by
  cases h <;> rfl

theorem readWord_of_mem {c : Char} (hc : c ∈ word) (hplain : isPlain c = false) :
    readWord word = .error (.unknownWord (String.ofList word)) := by
  rw [Token.readWord_eq_error_iff]
  refine ⟨not_standsFor_of_mem hc hplain, (if_neg ?_).symm⟩
  rintro ⟨hword, -⟩
  rw [isPlain_of_isDigit ((isDecimal_iff.mp hword).2 c hc)] at hplain
  cases hplain

/-- A single word is read alike with either small sigma. -/
theorem readWord_map_plainSigma (word : List Char) :
    readWord (word.map plainSigma) =
      ((readWord word).map Token.plain).mapError WordError.plain := by
  by_cases hfinal : 'ς' ∈ word
  · -- such a word is unknown, and so is the one with the other sigma in its place
    have hsmall : 'σ' ∈ word.map plainSigma := List.mem_map.mpr ⟨'ς', hfinal, by decide⟩
    rw [readWord_of_mem hfinal (by decide), readWord_of_mem hsmall (by decide)]
    simp [Except.map, WordError.plain, plainText]
  · rw [map_plainSigma_of_not_mem hfinal]
    cases hread : readWord word with
    | ok t =>
      have hplain := (readWord_eq_ok_iff_standsFor.mp hread).plain_eq
      rw [Except.map, mapError_ok, hplain]
    | error cause =>
      obtain ⟨-, rfl⟩ := Token.readWord_eq_error_iff.mp hread
      rw [Except.map, mapError_error]
      split
      · rfl
      · simp [WordError.plain, plainText, map_plainSigma_of_not_mem hfinal]

/-- Only `count` itself becomes `count`. -/
theorem map_plainSigma_eq_count_iff :
    word.map plainSigma = countKeyword.toList ↔ word = countKeyword.toList := by
  constructor
  · intro h
    rw [← h, map_plainSigma_of_not_mem]
    intro hfinal
    have hsmall : 'σ' ∈ word.map plainSigma := List.mem_map.mpr ⟨'ς', hfinal, by decide⟩
    rw [h] at hsmall
    revert hsmall
    decide
  · rintro rfl
    decide

theorem plainOutcome_map_cons (t : Token) (outcome : Except WordError Operand) :
    plainOutcome (outcome.map fun tokens => t :: tokens) =
      (plainOutcome outcome).map fun tokens => t.plain :: tokens := by
  cases outcome <;> rfl

/-- **The reader of words sees one small sigma.** -/
theorem scanWords_map_plainSigma (counting : Bool) (ws : List (List Char)) :
    scanWords counting (ws.map (List.map plainSigma)) = plainOutcome (scanWords counting ws) := by
  fun_induction scanWords counting ws with
  | case1 => rfl
  | case2 => rfl
  | case3 word rest ih =>
    rw [List.map_cons, scanWords, ih, plainOutcome_map_cons]
    simp [Token.plain, plainText]
  | case4 rest ih =>
    rw [List.map_cons, scanWords, if_pos (map_plainSigma_eq_count_iff.mpr rfl), ih]
  | case5 word rest hword ih =>
    rw [List.map_cons, scanWords, if_neg (mt map_plainSigma_eq_count_iff.mp hword), ih,
      readWord_map_plainSigma]
    cases readWord word with
    | error cause => rfl
    | ok t => exact (plainOutcome_map_cons t _).symm

/-- Words that are read as the same tokens are the same, if they differ in small sigmas only: each
    of these is in a text to count. -/
theorem ScannedAs.eq_of_map_plainSigma (h : ScannedAs ws tokens) (h' : ScannedAs ws' tokens)
    (hsame : ws.map (List.map plainSigma) = ws'.map (List.map plainSigma)) : ws = ws' := by
  induction h generalizing ws' with
  | nil => exact (h'.eq_nil_iff.mp rfl).symm
  | @counted word rest tokens _ ih =>
    -- the same count comes only of the same text in a word of its own
    generalize hall : Token.leaf (.count (String.ofList word)) :: tokens = all at h'
    cases h' with
    | nil => cases hall
    | counted word' h' =>
      rw [List.cons.injEq, Token.leaf.injEq, Leaf.count.injEq, String.ofList_inj] at hall
      obtain ⟨rfl, rfl⟩ := hall
      rw [List.map_cons, List.map_cons, List.map_cons, List.map_cons] at hsame
      rw [ih h' (List.cons.inj (List.cons.inj hsame).2).2]
    | word hword =>
      rw [← (List.cons.inj hall).1] at hword
      cases hword
  | word hword _ ih =>
    cases h' with
    | counted => cases hword
    | word hword' h' =>
      rw [List.map_cons, List.map_cons, List.cons.injEq, hword.map_plainSigma,
        hword'.map_plainSigma] at hsame
      rw [hsame.1, ih h' hsame.2]

end Words

/-! ### Operands -/

theorem plainSigma_of_isDelimiter {c : Char} (h : isDelimiter c = true) : plainSigma c = c := by
  refine if_neg ?_
  rintro rfl
  revert h
  decide

theorem words_map_plainSigma (text : List Char) :
    words (text.map plainSigma) = (words text).map (List.map plainSigma) :=
  pieces_map isDelimiter_plainSigma text

/-- Texts that differ in small sigmas only are the same if they have the same words. -/
theorem eq_of_words_eq {text text' : List Char}
    (hmap : text.map plainSigma = text'.map plainSigma) (h : words text = words text') :
    text = text' := by
  refine eq_of_pieces_eq (fun c d hsame => ?_) hmap h
  have hdelimiter : isDelimiter c = isDelimiter d := by
    rw [← isDelimiter_plainSigma c, hsame, isDelimiter_plainSigma]
  refine ⟨hdelimiter, fun hc => ?_⟩
  rwa [plainSigma_of_isDelimiter hc, plainSigma_of_isDelimiter (hdelimiter ▸ hc)] at hsame

theorem plainOutcome_read (text : String) : plainOutcome (Operand.read text) =
    match plainOutcome (scanWords false (words (normalize text.toList))) with
    | .ok [] => .error .noWords
    | answer => answer := by
  unfold Operand.read
  rw [readWords_eq_scanWords]
  cases scanWords false (words (normalize text.toList)) with
  | error cause => cases cause <;> rfl
  | ok found => cases found <;> rfl

namespace Operand

variable {a b : String}

theorem map_plainSigma_normalize (h : bareText a.toList = bareText b.toList) :
    (normalize a.toList).map plainSigma = (normalize b.toList).map plainSigma := by
  rw [normalize_eq_normalizeWith, normalize_eq_normalizeWith b.toList, h]
  exact map_plainSigma_normalizeWith _ _ _

theorem read_of_sigmaEnds (h : bareText a.toList = bareText b.toList)
    (hends : sigmaEnds a.toList = sigmaEnds b.toList) : Operand.read a = Operand.read b := by
  unfold Operand.read
  rw [normalize_eq_normalizeWith, normalize_eq_normalizeWith b.toList, h, hends]

theorem sigmaEnds_of_not_mem (h : bareText a.toList = bareText b.toList) (hsigma : 'Σ' ∉ a.toList) :
    sigmaEnds a.toList = sigmaEnds b.toList := by
  have hnone : (bareText a.toList).count 'Σ' = 0 := by
    rw [List.count_eq_zero, bareText, List.mem_map]
    rintro ⟨c, hc, hlower⟩
    exact hsigma (toLower_eq_sigma_iff.mp hlower ▸ mem_of_mem_dropFillers hc)
  have hleft := length_sigmaEndsAfter [] a.toList
  have hright := length_sigmaEndsAfter [] b.toList
  rw [hnone] at hleft
  rw [← h, hnone] at hright
  rw [sigmaEnds, sigmaEnds, List.eq_nil_of_length_eq_zero hleft,
    List.eq_nil_of_length_eq_zero hright]

/-- Where both texts are read as the same tokens, their sigmas end words alike. -/
theorem sigmaEnds_of_read (h : bareText a.toList = bareText b.toList) {tokens : Operand}
    (ha : Operand.read a = .ok tokens) (hb : Operand.read b = .ok tokens) :
    sigmaEnds a.toList = sigmaEnds b.toList := by
  have hscannedA := scanWords_eq_ok_iff.mp (read_eq_ok_iff.mp ha).1
  have hscannedB := scanWords_eq_ok_iff.mp (read_eq_ok_iff.mp hb).1
  have hmap := map_plainSigma_normalize h
  -- from the tokens back to the words, from there to the kept texts, and to their sigmas
  have hwords : words (normalize a.toList) = words (normalize b.toList) := by
    refine hscannedA.eq_of_map_plainSigma hscannedB ?_
    rw [← words_map_plainSigma, ← words_map_plainSigma, hmap]
  have hkept := eq_of_words_eq hmap hwords
  rw [normalize_eq_normalizeWith, normalize_eq_normalizeWith b.toList, ← h] at hkept
  refine eq_of_normalizeWith_eq (length_sigmaEndsAfter [] _) ?_ hkept
  rw [h]
  exact length_sigmaEndsAfter [] _

/-- **What decoration means.** Two texts that differ only in blanks, quotes and capital letters of
    ASCII are read alike if there is no capital sigma in them, or if the same ones of their capital
    sigmas end a word.  They are read as the same tokens under no other condition, and however they
    are read, it is alike but for the form of small sigmas. -/
theorem read_of_same_bareText (a b : String) (h : bareText a.toList = bareText b.toList) :
    ('Σ' ∉ a.toList → Operand.read a = Operand.read b) ∧
    (sigmaEnds a.toList = sigmaEnds b.toList → Operand.read a = Operand.read b) ∧
    (∀ tokens, Operand.read a = .ok tokens →
      (Operand.read b = .ok tokens ↔ sigmaEnds a.toList = sigmaEnds b.toList)) ∧
    plainOutcome (Operand.read a) = plainOutcome (Operand.read b) := by
  refine ⟨fun hsigma => read_of_sigmaEnds h (sigmaEnds_of_not_mem h hsigma), read_of_sigmaEnds h,
    fun tokens ha => ⟨sigmaEnds_of_read h ha, fun hends => ?_⟩, ?_⟩
  · rw [← read_of_sigmaEnds h hends, ha]
  · rw [plainOutcome_read, plainOutcome_read, ← scanWords_map_plainSigma,
      ← scanWords_map_plainSigma, ← words_map_plainSigma, ← words_map_plainSigma,
      map_plainSigma_normalize h]

theorem read_of_same_bareText_around_sigma :
    bareText "MAX( count('ΑΣ Α'), 7 )".toList = bareText "max(Count(\"ΑΣ\" Α),7)".toList ∧
    sigmaEnds "MAX( count('ΑΣ Α'), 7 )".toList = sigmaEnds "max(Count(\"ΑΣ\" Α),7)".toList ∧
    Operand.read "MAX( count('ΑΣ Α'), 7 )" = Operand.read "max(Count(\"ΑΣ\" Α),7)" ∧
    plainOutcome (Operand.read "count(ΑΣ Α)") = plainOutcome (Operand.read "count(ΑΣΑ)") := by
  have hbare : bareText "MAX( count('ΑΣ Α'), 7 )".toList =
      bareText "max(Count(\"ΑΣ\" Α),7)".toList := by
    decide +kernel
  have hends : sigmaEnds "MAX( count('ΑΣ Α'), 7 )".toList =
      sigmaEnds "max(Count(\"ΑΣ\" Α),7)".toList := by
    decide +kernel
  exact ⟨hbare, hends, (read_of_same_bareText _ _ hbare).2.1 hends,
    (read_of_same_bareText "count(ΑΣ Α)" "count(ΑΣΑ)" (by decide +kernel)).2.2.2⟩

/-- Decoration does mean something: a blank behind a capital sigma ends the word. -/
theorem read_sees_decoration : ¬∀ a b : String,
    bareText a.toList = bareText b.toList → Operand.read a = Operand.read b := by
  intro h
  have hsame := h "count(ΑΣ Α)" "count(ΑΣΑ)" (by decide +kernel)
  revert hsame
  decide +kernel

example : Operand.read "count(ΑΣ Α)" = .ok [.leaf (.count "αςα")] ∧
    Operand.read "count(ΑΣΑ)" = .ok [.leaf (.count "ασα")] := by
  decide +kernel

end Operand

end TextRules
