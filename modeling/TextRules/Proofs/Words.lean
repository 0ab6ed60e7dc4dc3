import TextRules.Operand.Reader
import TextRules.Proofs.Outcome
import TextRules.Proofs.Pieces

namespace TextRules

/-!
# The words of an operand

The reader takes one word after the other off its text.  Here the text is cut into words first
(`words`), and the tokens are read from the list of words (`scanWords`): both ways agree
(`readWords_eq_scanWords`), and the second is easier to reason about.

Two results go in opposite directions.  The words that write tokens are read as these tokens
(`scanWords_flatMap_words`).  And every token that was read is `Token.Proper`, a number that is not
negative or a text to count that is not empty, where it is one of the two; so is every token that
has a stored form.
-/

/-- The words of a text. -/
def words (text : List Char) : List (List Char) := pieces isDelimiter text

/-- The tokens of a list of words.  While `counting`, the first word is the text to count. -/
def scanWords : Bool → List (List Char) → Except WordError (List Token)
  | false, [] => .ok []
  | true, [] => .error .nothingToCount
  | true, word :: rest =>
    (scanWords false rest).map fun tokens => .leaf (.count (String.ofList word)) :: tokens
  | false, word :: rest =>
    if word = countKeyword.toList then scanWords true rest
    else (readWord word).bind fun token =>
      (scanWords false rest).map fun tokens => token :: tokens

/-! ### Taking words off a text -/

theorem words_eq_nil_of_nextWord? {text : List Char} (h : nextWord? text = none) :
    words text = [] := by
  unfold nextWord? at h
  split at h
  · next hskipped => rw [words, ← pieces_dropWhile, hskipped, pieces_nil]
  · cases h

theorem words_eq_cons_of_nextWord? {text word rest : List Char}
    (h : nextWord? text = some (word, rest)) : words text = word :: words rest := by
  unfold nextWord? at h
  split at h
  · cases h
  · next c tail hskipped =>
    obtain ⟨rfl, rfl⟩ : _ ∧ _ := by simpa using h
    -- delimiters were skipped as long as there were any
    have hc : isDelimiter c = false := by
      have hhead := List.head?_dropWhile_not isDelimiter text
      simpa [hskipped] using hhead
    rw [words, ← pieces_dropWhile, hskipped, pieces_cons_of_not hc]
    rfl

/-- **Reading is scanning the words.** -/
theorem readWords_eq_scanWords (counting : Bool) (text : List Char) :
    readWords counting text = scanWords counting (words text) := by
  fun_induction readWords counting text with
  | case1 text h => rw [words_eq_nil_of_nextWord? h, scanWords]
  | case2 counting text h hcounting =>
    rw [words_eq_nil_of_nextWord? h, Bool.eq_false_iff.mpr hcounting, scanWords]
  | case3 text word rest h ih =>
    rw [words_eq_cons_of_nextWord? h, scanWords, ih]
  | case4 counting text rest hcounting h ih =>
    rw [words_eq_cons_of_nextWord? h, Bool.eq_false_iff.mpr hcounting, scanWords, if_pos rfl, ih]
  | case5 counting text word rest h hcounting hcount cause hword =>
    rw [words_eq_cons_of_nextWord? h, Bool.eq_false_iff.mpr hcounting, scanWords, if_neg hcount,
      hword]
    rfl
  | case6 counting text word rest h hcounting hcount token hword ih =>
    rw [words_eq_cons_of_nextWord? h, Bool.eq_false_iff.mpr hcounting, scanWords, if_neg hcount,
      hword, ih]
    rfl

/-- The tokens of an operand are those of the words of its text, of which there is at least one. -/
theorem Operand.read_eq_ok_iff {text : String} {tokens : Operand} :
    Operand.read text = .ok tokens ↔
      scanWords false (words (normalize text.toList)) = .ok tokens ∧ tokens ≠ [] := by
  unfold Operand.read
  rw [readWords_eq_scanWords]
  cases scanWords false (words (normalize text.toList)) with
  | error cause => simp
  | ok found =>
    cases found with
    | nil => simp
    | cons token found =>
      simp only [Except.ok.injEq, iff_self_and]
      rintro rfl
      exact List.cons_ne_nil _ _

/-! ### Tokens that can be read -/

/-- A number is not negative, and a text to count is not empty. -/
def Token.Proper : Token → Prop
  | .leaf (.number value) => 0 ≤ value.toInt
  | .leaf (.count needle) => needle ≠ ""
  | .leaf .total | .leaf .average | .call _ => True

/-- A word is read as a number exactly if it is decimal and a value is the number it writes. -/
theorem Token.number?_eq_some_iff {word : List Char} {value : Value} :
    number? word = some value ↔ isDecimal word = true ∧ value.toInt = decimalValue word := by
  constructor
  · intro h
    simp only [number?, Option.ite_none_right_eq_some] at h
    exact ⟨h.1, Value.toInt_of_ofNat? h.2⟩
  · rintro ⟨hword, hvalue⟩
    have hle := Value.toInt_le_largest value
    rw [hvalue] at hle
    rw [number?, if_pos hword, Value.ofNat?, if_pos hle, Option.some.injEq, ← Int64.toInt_inj,
      Value.toInt_clamp, hvalue]
    simp only [Value.smallest, Value.largest] at hle ⊢
    omega

theorem Token.proper_of_number? {word : List Char} {value : Value}
    (h : Token.number? word = some value) : (Token.leaf (.number value)).Proper := by
  rw [Token.Proper, (number?_eq_some_iff.mp h).2]
  exact Int.natCast_nonneg _

/-- The fixed words call functions and ask for statistics. -/
theorem Token.eq_of_ofKeyword? {word : String} {t : Token} (h : ofKeyword? word = some t) :
    (∃ f, t = .call f) ∨ t = .leaf .total ∨ t = .leaf .average := by
  unfold ofKeyword? at h
  split at h
  next f _ => exact .inl ⟨f, (Option.some.inj h).symm⟩
  next =>
    split at h
    · exact .inr (.inl (Option.some.inj h).symm)
    · rw [Option.ite_none_right_eq_some, Option.some.injEq] at h
      exact .inr (.inr h.2.symm)

theorem Token.proper_of_ofKeyword? {word : String} {t : Token} (h : ofKeyword? word = some t) :
    t.Proper := by
  obtain ⟨f, rfl⟩ | rfl | rfl := eq_of_ofKeyword? h <;> trivial

/-- A word is a fixed word or a number that is a value. -/
theorem readWord_eq_ok_iff {word : List Char} {t : Token} :
    readWord word = .ok t ↔
      Token.ofKeyword? (String.ofList word) = some t ∨
        Token.ofKeyword? (String.ofList word) = none ∧
          ∃ value, Token.number? word = some value ∧ t = .leaf (.number value) := by
  unfold readWord
  cases Token.ofKeyword? (String.ofList word) with
  | some token => simp
  | none =>
    by_cases hword : isDecimal word = true
    · rw [if_pos hword]
      cases Token.number? word <;> simp [eq_comm]
    · rw [if_neg hword, Token.number?, if_neg hword]
      simp

theorem Token.proper_of_readWord {word : List Char} {t : Token} (h : readWord word = .ok t) :
    t.Proper := by
  rcases readWord_eq_ok_iff.mp h with hkeyword | ⟨-, value, hvalue, rfl⟩
  · exact proper_of_ofKeyword? hkeyword
  · exact proper_of_number? hvalue

/-- Where a token comes from: it is a word that was counted, or what a word stands for. -/
theorem of_mem_scanWords {counting : Bool} {ws : List (List Char)} {tokens : List Token}
    (h : scanWords counting ws = .ok tokens) {t : Token} (ht : t ∈ tokens) :
    ∃ word ∈ ws, t = .leaf (.count (String.ofList word)) ∨ readWord word = .ok t := by
  fun_induction scanWords counting ws generalizing tokens with
  | case1 =>
    obtain rfl := Except.ok.inj h
    cases ht
  | case2 => cases h
  | case3 word rest ih =>
    obtain ⟨found, hfound, rfl⟩ := map_eq_ok_iff.mp h
    rcases List.mem_cons.mp ht with rfl | ht
    · exact ⟨word, List.mem_cons_self, .inl rfl⟩
    · obtain ⟨other, hother, hcomes⟩ := ih hfound ht
      exact ⟨other, List.mem_cons_of_mem word hother, hcomes⟩
  | case4 rest ih =>
    obtain ⟨other, hother, hcomes⟩ := ih h ht
    exact ⟨other, List.mem_cons_of_mem _ hother, hcomes⟩
  | case5 word rest hword ih =>
    obtain ⟨token, htoken, hrest⟩ := bind_eq_ok_iff.mp h
    obtain ⟨found, hfound, rfl⟩ := map_eq_ok_iff.mp hrest
    rcases List.mem_cons.mp ht with rfl | ht
    · exact ⟨word, List.mem_cons_self, .inr htoken⟩
    · obtain ⟨other, hother, hcomes⟩ := ih hfound ht
      exact ⟨other, List.mem_cons_of_mem word hother, hcomes⟩

/-- A token of an operand is a counted word of its text, or what a word of its text stands for. -/
theorem Operand.of_mem_read {text : String} {tokens : Operand} (h : Operand.read text = .ok tokens)
    {t : Token} (ht : t ∈ tokens) :
    ∃ word ∈ words (normalize text.toList),
      t = .leaf (.count (String.ofList word)) ∨ readWord word = .ok t :=
  of_mem_scanWords (read_eq_ok_iff.mp h).1 ht

/-- **Every token that was read is proper.** -/
theorem Operand.proper_of_read {text : String} {tokens : Operand}
    (h : Operand.read text = .ok tokens) {t : Token} (ht : t ∈ tokens) : t.Proper := by
  obtain ⟨word, hword, rfl | hread⟩ := of_mem_read h ht
  · have hne := (of_mem_pieces hword).1
    simpa [Token.Proper] using hne
  · exact Token.proper_of_readWord hread

theorem Token.proper_of_ofText? {word : String} {t : Token} (h : Token.ofText? word = some t) :
    t.Proper := by
  unfold ofText? at h
  split at h
  next hkeyword =>
    obtain rfl := Option.some.inj h
    exact proper_of_ofKeyword? hkeyword
  next =>
    split at h
    next needle hneedle =>
      obtain rfl := Option.some.inj h
      -- the word is longer than the mark before the text to count
      simp only [countedText?, Option.ite_none_right_eq_some, Option.some.injEq] at hneedle
      obtain ⟨⟨-, hlength⟩, rfl⟩ := hneedle
      simpa [Proper] using hlength
    next =>
      obtain ⟨value, hvalue, rfl⟩ := Option.map_eq_some_iff.mp h
      exact proper_of_number? hvalue

/-! ### Words that write tokens -/

/-- The words that write a token. -/
def Token.words : Token → List (List Char)
  | .call f => [f.keyword.toList]
  | .leaf (.number value) => [value.text.toList]
  | .leaf (.count needle) => [countKeyword.toList, needle.toList]
  | .leaf .total => [totalKeyword.toList]
  | .leaf .average => [averageKeyword.toList]

/-- No fixed word is a number. -/
theorem Token.ofKeyword?_of_isDecimal {word : List Char} (h : isDecimal word = true) :
    ofKeyword? (String.ofList word) = none := by
  have hfixed : ∀ fixed : String, isDecimal fixed.toList = false → String.ofList word ≠ fixed := by
    rintro fixed hfixed rfl
    rw [String.toList_ofList, h] at hfixed
    cases hfixed
  unfold ofKeyword?
  cases hf : Combinator.ofKeyword? (String.ofList word) with
  | some f =>
    have hkeyword : isDecimal f.keyword.toList = false := by cases f <;> decide
    exact absurd (Combinator.keyword_of_ofKeyword? hf).symm (hfixed _ hkeyword)
  | none =>
    rw [if_neg (hfixed _ (by decide)), if_neg (hfixed _ (by decide))]

/-- A value that is not negative is written by its digits. -/
theorem Value.toList_text {value : Value} (h : 0 ≤ value.toInt) :
    value.text.toList = decimal value.toInt.toNat := by
  obtain ⟨n, hn⟩ := Int.eq_ofNat_of_zero_le h
  simp [Value.text, hn, decimalText]

/-- The digits of a value that is not negative are read as this value. -/
theorem Token.number?_toList_text {value : Value} (h : 0 ≤ value.toInt) :
    number? value.text.toList = some value := by
  rw [Value.toList_text h, number?_eq_some_iff, decimalValue_decimal, Int.toNat_of_nonneg h]
  exact ⟨isDecimal_decimal _, rfl⟩

theorem readWord_toList_text {value : Value} (h : 0 ≤ value.toInt) :
    readWord value.text.toList = .ok (.leaf (.number value)) := by
  have hdecimal : isDecimal value.text.toList = true := by
    rw [Value.toList_text h]
    exact isDecimal_decimal _
  exact readWord_eq_ok_iff.mpr
    (.inr ⟨Token.ofKeyword?_of_isDecimal hdecimal, value, Token.number?_toList_text h, rfl⟩)

/-- A word that is read as a token does not start a count. -/
theorem scanWords_cons_of_readWord {word : List Char} {t : Token} (h : readWord word = .ok t)
    (rest : List (List Char)) :
    scanWords false (word :: rest) = (scanWords false rest).map fun tokens => t :: tokens := by
  have hcount : word ≠ countKeyword.toList := by
    -- `count` by itself is unknown to the reader of single words
    rintro rfl
    revert h
    have hunknown : readWord countKeyword.toList = .error (.unknownWord "count") := by
      decide +kernel
    rw [hunknown]
    nofun
  rw [scanWords, if_neg hcount, h]
  rfl

/-- The words of a token are read as this token, whatever follows. -/
theorem scanWords_words_append {t : Token} (h : t.Proper) (rest : List (List Char)) :
    scanWords false (t.words ++ rest) = (scanWords false rest).map fun tokens => t :: tokens := by
  cases t with
  | call f =>
    have hread : readWord f.keyword.toList = .ok (.call f) := by cases f <;> decide +kernel
    exact scanWords_cons_of_readWord hread rest
  | leaf l =>
    cases l with
    | number value => exact scanWords_cons_of_readWord (readWord_toList_text h) rest
    | count needle =>
      show scanWords false (countKeyword.toList :: needle.toList :: rest) = _
      rw [scanWords, if_pos rfl, scanWords, String.ofList_toList]
    | total =>
      have hread : readWord totalKeyword.toList = .ok (.leaf .total) := by decide +kernel
      exact scanWords_cons_of_readWord hread rest
    | average =>
      have hread : readWord averageKeyword.toList = .ok (.leaf .average) := by decide +kernel
      exact scanWords_cons_of_readWord hread rest

/-- **The words of tokens are read as these tokens.** -/
theorem scanWords_flatMap_words {tokens : List Token} (h : ∀ t ∈ tokens, t.Proper) :
    scanWords false (tokens.flatMap Token.words) = .ok tokens := by
  induction tokens with
  | nil => rfl
  | cons t rest ih =>
    rw [List.forall_mem_cons] at h
    rw [List.flatMap_cons, scanWords_words_append h.1, ih h.2]
    rfl

end TextRules
