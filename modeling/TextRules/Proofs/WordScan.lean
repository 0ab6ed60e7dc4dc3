import TextRules.Proofs.Words

namespace TextRules

/-!
# The scan of words

The words of an operand are taken from left to right: `count` with the word that follows it, and any
other word by itself.  `ScannedAs` says which tokens this gives, and `Stuck` where it cannot go on,
for which cause; neither mentions a reader.  Every list of words is scanned to its end or gets stuck
somewhere (`exists_scannedAs_or_stuck`), and never both.

* `scanWords_eq_ok_iff`, `scanWords_eq_error_iff` — the reader of word lists does this scan.
* `Operand.read_scans_words` — so does the reader of operands, with the words that its text is cut
  into.
-/

/-- The token that a word stands for by itself. -/
inductive StandsFor : List Char → Token → Prop
  | call (f : Combinator) : StandsFor f.keyword.toList (.call f)
  | total : StandsFor totalKeyword.toList (.leaf .total)
  | average : StandsFor averageKeyword.toList (.leaf .average)
  | number {word : List Char} {value : Value} (hword : isDecimal word = true)
      (hvalue : value.toInt = decimalValue word) : StandsFor word (.leaf (.number value))

/-- The tokens of a list of words.  The word after `count` is counted, whatever it is. -/
inductive ScannedAs : List (List Char) → List Token → Prop
  | nil : ScannedAs [] []
  | counted (word : List Char) {rest : List (List Char)} {tokens : List Token}
      (h : ScannedAs rest tokens) :
      ScannedAs (countKeyword.toList :: word :: rest)
        (.leaf (.count (String.ofList word)) :: tokens)
  | word {word : List Char} {t : Token} {rest : List (List Char)} {tokens : List Token}
      (hword : StandsFor word t) (h : ScannedAs rest tokens) :
      ScannedAs (word :: rest) (t :: tokens)

/-- Why a list of words cannot be scanned beyond its first word. -/
inductive Stuck : List (List Char) → WordError → Prop
  | nothingToCount : Stuck [countKeyword.toList] .nothingToCount
  | numberTooLarge {word : List Char} (rest : List (List Char)) (hword : isDecimal word = true)
      (hvalue : Value.largest < decimalValue word) :
      Stuck (word :: rest) (.numberTooLarge (String.ofList word))
  | unknownWord {word : List Char} (rest : List (List Char)) (hcount : word ≠ countKeyword.toList)
      (hword : isDecimal word = false) (hunknown : ∀ t, ¬StandsFor word t) :
      Stuck (word :: rest) (.unknownWord (String.ofList word))

/-- The scan of a list of words goes no further than one of them. -/
def GetsStuck (ws : List (List Char)) (cause : WordError) : Prop :=
  ∃ before tokens rest, ws = before ++ rest ∧ ScannedAs before tokens ∧ Stuck rest cause

/-! ### Single words -/

section Word

variable {word : List Char} {t : Token} {cause : WordError}

/-- The fixed words are those of the functions and of the two statistics. -/
theorem StandsFor.of_ofKeyword? (h : Token.ofKeyword? (String.ofList word) = some t) :
    StandsFor word t := by
  have hword : ∀ fixed : String, String.ofList word = fixed → word = fixed.toList := by
    rintro _ rfl
    exact String.toList_ofList.symm
  unfold Token.ofKeyword? at h
  split at h
  next f hf =>
    obtain rfl := Option.some.inj h
    rw [hword _ (Combinator.keyword_of_ofKeyword? hf).symm]
    exact .call f
  next =>
    split at h
    next htotal =>
      obtain rfl := Option.some.inj h
      rw [hword _ htotal]
      exact .total
    next =>
      rw [Option.ite_none_right_eq_some, Option.some.injEq] at h
      obtain ⟨haverage, rfl⟩ := h
      rw [hword _ haverage]
      exact .average

/-- A word is read as the token that it stands for. -/
theorem readWord_eq_ok_iff_standsFor : readWord word = .ok t ↔ StandsFor word t := by
  rw [readWord_eq_ok_iff]
  constructor
  · rintro (hkeyword | ⟨-, value, hvalue, rfl⟩)
    · exact .of_ofKeyword? hkeyword
    · obtain ⟨hword, hvalue⟩ := Token.number?_eq_some_iff.mp hvalue
      exact .number hword hvalue
  · rintro (f | _ | _ | ⟨hword, hvalue⟩)
    · left
      cases f <;> decide
    · left
      decide
    · left
      decide
    · exact .inr ⟨Token.ofKeyword?_of_isDecimal hword, _,
        Token.number?_eq_some_iff.mpr ⟨hword, hvalue⟩, rfl⟩

/-- A word of digits is no value only where the number is above the largest one. -/
theorem Token.number?_eq_none_iff (h : isDecimal word = true) :
    number? word = none ↔ Value.largest < decimalValue word := by
  rw [number?, if_pos h, Value.ofNat?, ite_eq_right_iff]
  simp

theorem readWord_eq_numberTooLarge (hword : isDecimal word = true)
    (hvalue : Value.largest < decimalValue word) :
    readWord word = .error (.numberTooLarge (String.ofList word)) := by
  rw [readWord, Token.ofKeyword?_of_isDecimal hword]
  dsimp only
  rw [if_pos hword, (Token.number?_eq_none_iff hword).mpr hvalue]

theorem readWord_eq_unknownWord (hword : isDecimal word = false)
    (hunknown : ∀ t, ¬StandsFor word t) :
    readWord word = .error (.unknownWord (String.ofList word)) := by
  have hkeyword : Token.ofKeyword? (String.ofList word) = none := by
    rw [Option.eq_none_iff_forall_ne_some]
    exact fun t ht => hunknown t (.of_ofKeyword? ht)
  rw [readWord, hkeyword]
  dsimp only
  rw [if_neg (by simp [hword])]

/-- A word other than `count` stands for a token, or nothing is scanned behind it. -/
theorem standsFor_or_stuck (hcount : word ≠ countKeyword.toList) (rest : List (List Char)) :
    (∃ t, StandsFor word t) ∨ ∃ cause, Stuck (word :: rest) cause := by
  rw [or_iff_not_imp_left, not_exists]
  intro hunknown
  cases hword : isDecimal word with
  | false => exact ⟨_, .unknownWord rest hcount hword hunknown⟩
  | true =>
    refine ⟨_, .numberTooLarge rest hword ((Token.number?_eq_none_iff hword).mp ?_)⟩
    rw [Option.eq_none_iff_forall_ne_some]
    intro value hvalue
    exact hunknown _ (.number hword (Token.number?_eq_some_iff.mp hvalue).2)

end Word

/-! ### Lists of words -/

section Scan

variable {ws rest : List (List Char)} {tokens found : List Token} {cause : WordError}

theorem ScannedAs.append (h : ScannedAs ws tokens) (hrest : ScannedAs rest found) :
    ScannedAs (ws ++ rest) (tokens ++ found) := by
  induction h with
  | nil => exact hrest
  | counted word _ ih => exact .counted word ih
  | word hword _ ih => exact .word hword ih

theorem ScannedAs.eq_nil_iff (h : ScannedAs ws tokens) : tokens = [] ↔ ws = [] := by
  cases h <;> simp

/-- What has been scanned has no part in whether and where the scan gets stuck. -/
theorem GetsStuck.append (h : ScannedAs ws tokens) (hrest : GetsStuck rest cause) :
    GetsStuck (ws ++ rest) cause := by
  obtain ⟨before, found, rest, rfl, hbefore, hstuck⟩ := hrest
  exact ⟨ws ++ before, tokens ++ found, rest, (List.append_assoc ..).symm, h.append hbefore,
    hstuck⟩

theorem Stuck.getsStuck (h : Stuck ws cause) : GetsStuck ws cause :=
  ⟨[], [], ws, rfl, .nil, h⟩

/-- Behind a part that was scanned, a list is scanned or gets stuck as it would by itself. -/
theorem ScannedAs.scannedAs_or_getsStuck (h : ScannedAs ws tokens)
    (hrest : (∃ found, ScannedAs rest found) ∨ ∃ cause, GetsStuck rest cause) :
    (∃ found, ScannedAs (ws ++ rest) found) ∨ ∃ cause, GetsStuck (ws ++ rest) cause := by
  rcases hrest with ⟨found, hfound⟩ | ⟨cause, hcause⟩
  · exact .inl ⟨_, h.append hfound⟩
  · exact .inr ⟨cause, hcause.append h⟩

/-- Every list of words is scanned to its end, or the scan gets stuck. -/
theorem exists_scannedAs_or_getsStuck (ws : List (List Char)) :
    (∃ tokens, ScannedAs ws tokens) ∨ ∃ cause, GetsStuck ws cause := by
  match ws with
  | [] => exact .inl ⟨[], .nil⟩
  | word :: rest =>
    by_cases hcount : word = countKeyword.toList
    · subst hcount
      match rest with
      | [] => exact .inr ⟨_, Stuck.nothingToCount.getsStuck⟩
      | needle :: rest =>
        -- two words are taken at once, whatever the second one is
        have hcounted := ScannedAs.counted needle .nil
        exact hcounted.scannedAs_or_getsStuck (exists_scannedAs_or_getsStuck rest)
    · rcases standsFor_or_stuck hcount rest with ⟨t, ht⟩ | ⟨cause, hstuck⟩
      · have hword := ScannedAs.word ht .nil
        exact hword.scannedAs_or_getsStuck (exists_scannedAs_or_getsStuck rest)
      · exact .inr ⟨cause, hstuck.getsStuck⟩
termination_by ws.length

/-- The reader takes what is scanned off the front of a list of words. -/
theorem ScannedAs.scanWords_append (h : ScannedAs ws tokens) (rest : List (List Char)) :
    scanWords false (ws ++ rest) = (scanWords false rest).map fun found => tokens ++ found := by
  induction h with
  | nil => cases hrest : scanWords false rest <;> simp [hrest, Except.map]
  | counted word _ ih =>
    rw [List.cons_append, List.cons_append, scanWords, if_pos rfl, scanWords, ih]
    cases scanWords false rest <;> rfl
  | word hword _ ih =>
    rw [List.cons_append, scanWords_cons_of_readWord (readWord_eq_ok_iff_standsFor.mpr hword), ih]
    cases scanWords false rest <;> rfl

/-- The reader stops where the scan cannot go on, for the same cause. -/
theorem Stuck.scanWords_eq (h : Stuck ws cause) : scanWords false ws = .error cause := by
  cases h with
  | nothingToCount => rw [scanWords, if_pos rfl, scanWords]
  | @numberTooLarge word rest hword hvalue =>
    have hcount : word ≠ countKeyword.toList := by
      rintro rfl
      cases hword
    rw [scanWords, if_neg hcount, readWord_eq_numberTooLarge hword hvalue]
    rfl
  | unknownWord rest hcount hword hunknown =>
    rw [scanWords, if_neg hcount, readWord_eq_unknownWord hword hunknown]
    rfl

/-- The reader succeeds with the tokens of the scan. -/
theorem ScannedAs.scanWords_eq (h : ScannedAs ws tokens) : scanWords false ws = .ok tokens := by
  have hall := h.scanWords_append []
  rwa [List.append_nil, scanWords, Except.map, List.append_nil] at hall

/-- The reader fails where the scan gets stuck. -/
theorem GetsStuck.scanWords_eq (h : GetsStuck ws cause) : scanWords false ws = .error cause := by
  obtain ⟨before, tokens, rest, rfl, hbefore, hstuck⟩ := h
  rw [hbefore.scanWords_append, hstuck.scanWords_eq]
  rfl

theorem scanWords_eq_ok_iff : scanWords false ws = .ok tokens ↔ ScannedAs ws tokens := by
  refine ⟨fun h => ?_, ScannedAs.scanWords_eq⟩
  rcases exists_scannedAs_or_getsStuck ws with ⟨found, hfound⟩ | ⟨cause, hstuck⟩
  · rw [hfound.scanWords_eq] at h
    exact Except.ok.inj h ▸ hfound
  · rw [hstuck.scanWords_eq] at h
    cases h

theorem scanWords_eq_error_iff : scanWords false ws = .error cause ↔ GetsStuck ws cause := by
  refine ⟨fun h => ?_, GetsStuck.scanWords_eq⟩
  rcases exists_scannedAs_or_getsStuck ws with ⟨found, hfound⟩ | ⟨other, hstuck⟩
  · rw [hfound.scanWords_eq] at h
    cases h
  · rw [hstuck.scanWords_eq] at h
    exact Except.error.inj h ▸ hstuck

end Scan

/-! ### Operands -/

/-- An operand is refused for its words, or for having none. -/
theorem Operand.read_eq_error_iff {text : String} {cause : WordError} :
    Operand.read text = .error cause ↔
      scanWords false (words (normalize text.toList)) = .error cause ∨
        scanWords false (words (normalize text.toList)) = .ok [] ∧ cause = .noWords := by
  unfold Operand.read
  rw [readWords_eq_scanWords]
  cases scanWords false (words (normalize text.toList)) with
  | error cause => simp
  | ok found => cases found <;> simp [eq_comm]

/-- **Reading an operand is scanning its words.**  The words are what is left between commas and
    brackets of the text in lower case, without blanks and quotes.  The reader gives the tokens of
    the scan if there are words and the scan comes to their end, and otherwise tells why the scan
    got stuck or that there are no words. -/
theorem Operand.read_scans_words (text : String) :
    let ws := (((lowerCase text.toList).filter fun c => !isBlank c && !isQuote c).splitOnP
      isDelimiter).filter fun word => !word.isEmpty
    (∀ tokens, Operand.read text = .ok tokens ↔ ws ≠ [] ∧ ScannedAs ws tokens) ∧
    ∀ cause, Operand.read text = .error cause ↔
      GetsStuck ws cause ∨ ws = [] ∧ cause = .noWords := by
  intro ws
  constructor
  · intro tokens
    rw [read_eq_ok_iff, scanWords_eq_ok_iff]
    show ScannedAs ws tokens ∧ tokens ≠ [] ↔ _
    rw [and_comm]
    exact and_congr_left fun h => not_congr h.eq_nil_iff
  · intro cause
    rw [read_eq_error_iff, scanWords_eq_error_iff, scanWords_eq_ok_iff]
    have hnil : ScannedAs ws [] ↔ ws = [] :=
      ⟨fun h => h.eq_nil_iff.mp rfl, fun h => h ▸ .nil⟩
    show GetsStuck ws cause ∨ ScannedAs ws [] ∧ _ ↔ _
    rw [hnil]

/- The first word that cannot be scanned decides, whatever is wrong behind it. -/
example : Operand.read "count(count), 1x, count" = .error (.unknownWord "1x") := by decide +kernel

end TextRules
