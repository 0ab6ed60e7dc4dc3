import TextRules.Proofs.Numbers
import TextRules.Proofs.StoredForms
import TextRules.Proofs.WordScan

namespace TextRules

/-!
# Tokens and their words

A token is read from a word in two places: from the words of an operand, and from its stored form.
Both know the same fixed words and the same numbers; the stored form of a count is one word, while
an operand has the counted text in a word of its own.  `StandsFor` says what both have in common.

* `decimal_decimalValue` — writing the number that some digits stand for drops the zeros in front.
* `Token.ofText?_eq_some_iff` — what has a stored form, told by `StandsFor`.
* `Token.stored_form_round_trips` — tokens and stored forms belong to each other one by one, but for
  zeros in front of a number.
* `Token.readers_agree` — which words both readers take, and what they take them for; and what the
  statistics of a text make of the same digits.
-/

/-! ### Zeros in front of a number -/

/-- Digits without the zeros in front of them.  The last digit stays. -/
def withoutZeros : List Char → List Char
  | '0' :: c :: rest => withoutZeros (c :: rest)
  | digits => digits

theorem digitChar_of_isDigit {c : Char} (h : c.isDigit = true) :
    Nat.digitChar (c.toNat - '0'.toNat) = c := by
  have hdigits : ∀ n : Fin 10, Nat.digitChar n = Char.ofNat ('0'.toNat + n) := by decide
  have hle := toNat_digit_le h
  have hfirst : '0'.toNat ≤ c.toNat := by
    simp only [Char.isDigit, Bool.and_eq_true, decide_eq_true_eq] at h
    exact h.1
  rw [hdigits ⟨c.toNat - '0'.toNat, by omega⟩]
  show Char.ofNat ('0'.toNat + (c.toNat - '0'.toNat)) = c
  rw [Nat.add_sub_cancel' hfirst, Char.ofNat_toNat]

/-- Digits that follow a number other than zero are written behind it as they are. -/
theorem toDigits_ofDigitChars {digits : List Char} (h : ∀ c ∈ digits, c.isDigit = true)
    {n : Nat} (hn : 0 < n) :
    Nat.toDigits 10 (Nat.ofDigitChars 10 digits n) = Nat.toDigits 10 n ++ digits := by
  induction digits generalizing n with
  | nil => simp
  | cons c rest ih =>
    rw [List.forall_mem_cons] at h
    have hdigit : c.toNat - '0'.toNat < 10 := Nat.lt_succ_of_le (toNat_digit_le h.1)
    rw [Nat.ofDigitChars_cons, ih h.2 (by omega),
      ← Nat.toDigits_append_toDigits (by decide) hn hdigit, Nat.toDigits_of_lt_base hdigit,
      digitChar_of_isDigit h.1, List.append_assoc, List.singleton_append]

/-- A number is written without the zeros that may have been in front of its digits. -/
theorem decimal_decimalValue {word : List Char} (h : isDecimal word = true) :
    decimal (decimalValue word) = withoutZeros word := by
  obtain ⟨hne, hdigits⟩ := isDecimal_iff.mp h
  clear h
  fun_induction withoutZeros word with
  | case1 c rest ih =>
    rw [List.forall_mem_cons] at hdigits
    rw [← ih (List.cons_ne_nil _ _) hdigits.2, decimalValue, Nat.ofDigitChars_cons]
    rfl
  | case2 digits hnot =>
    obtain ⟨c, rest, rfl⟩ := List.exists_cons_of_ne_nil hne
    rw [List.forall_mem_cons] at hdigits
    have hdigit : c.toNat - '0'.toNat < 10 := Nat.lt_succ_of_le (toNat_digit_le hdigits.1)
    have hfirst : Nat.toDigits 10 (c.toNat - '0'.toNat) = [c] := by
      rw [Nat.toDigits_of_lt_base hdigit, digitChar_of_isDigit hdigits.1]
    rw [decimal, decimalValue, Nat.ofDigitChars_cons, Nat.mul_zero, Nat.zero_add]
    cases rest with
    | nil => exact hfirst
    | cons d rest =>
      -- the first of several digits is not a zero
      have hpos : 0 < c.toNat - '0'.toNat := by
        rw [Nat.pos_iff_ne_zero]
        intro hzero
        have hc := digitChar_of_isDigit hdigits.1
        rw [hzero] at hc
        exact hnot d rest (by rw [← hc]; rfl)
      rw [toDigits_ofDigitChars hdigits.2 hpos, hfirst, List.singleton_append]

example : withoutZeros "0070".toList = "70".toList ∧ withoutZeros "000".toList = "0".toList := by
  decide

namespace Token

variable {word : String} {t : Token}

/-! ### Words with a stored form -/

theorem countedText?_eq_some {word needle : List Char} (h : countedText? word = some needle) :
    needle ≠ [] ∧ word = "count-".toList ++ needle := by
  rw [countedText?, Option.ite_none_right_eq_some, List.isPrefixOf_iff_prefix] at h
  obtain ⟨⟨⟨rest, rfl⟩, hlength⟩, hneedle⟩ := h
  rw [Option.some.injEq, List.drop_left] at hneedle
  subst hneedle
  refine ⟨?_, rfl⟩
  rintro rfl
  simp at hlength

theorem not_isDecimal_count (needle : String) : ¬isDecimal ("count-" ++ needle).toList = true := by
  intro h
  have hletter := (isDecimal_iff.mp h).2 'c' (by simp)
  cases hletter

/-- A word is a stored form if it stands for a token, or if it has the mark of a count in front of
    some text. -/
theorem ofText?_eq_some_iff : ofText? word = some t ↔ StandsFor word.toList t ∨
    ∃ needle, needle ≠ "" ∧ word = "count-" ++ needle ∧ t = .leaf (.count needle) := by
  constructor
  · intro h
    unfold ofText? at h
    -- fixed words are tried first, then counts, then numbers
    split at h
    next hkeyword =>
      rw [← String.ofList_toList (s := word), h] at hkeyword
      exact .inl (.of_ofKeyword? hkeyword)
    next =>
      split at h
      next needle hneedle =>
        obtain ⟨hne, hword⟩ := countedText?_eq_some hneedle
        refine .inr ⟨String.ofList needle, by simpa using hne, ?_, (Option.some.inj h).symm⟩
        rw [← String.toList_inj, hword]
        simp
      next =>
        obtain ⟨value, hvalue, rfl⟩ := Option.map_eq_some_iff.mp h
        obtain ⟨hdecimal, hvalue⟩ := number?_eq_some_iff.mp hvalue
        exact .inl (.number hdecimal hvalue)
  · rintro (hword | ⟨needle, hne, rfl, rfl⟩)
    · rcases readWord_eq_ok_iff.mp (readWord_eq_ok_iff_standsFor.mpr hword) with
        hkeyword | ⟨hkeyword, value, hvalue, rfl⟩
      · rw [String.ofList_toList] at hkeyword
        rw [ofText?, hkeyword]
      · rw [String.ofList_toList] at hkeyword
        have hdecimal := (number?_eq_some_iff.mp hvalue).1
        rw [ofText?, hkeyword, countedText?_of_isDecimal hdecimal, hvalue]
        rfl
    · exact ofText?_text (t := .leaf (.count needle)) hne

section Unmarked

variable (hmark : ∀ needle, needle ≠ "" → word ≠ "count-" ++ needle)

include hmark

/-- Without the mark of a count, a stored form is a word that stands for something. -/
theorem ofText?_eq_some_iff_of_unmarked : ofText? word = some t ↔ StandsFor word.toList t := by
  rw [ofText?_eq_some_iff, or_iff_left]
  rintro ⟨needle, hne, hword, -⟩
  exact hmark needle hne hword

theorem ofText?_eq_none_iff_of_unmarked :
    ofText? word = none ↔ ∀ t, ¬StandsFor word.toList t := by
  rw [Option.eq_none_iff_forall_ne_some]
  exact forall_congr' fun _ => not_congr (ofText?_eq_some_iff_of_unmarked hmark)

end Unmarked

/-- A word with the mark of a count stands for nothing by itself. -/
theorem not_standsFor_count (needle : String) (t : Token) :
    ¬StandsFor ("count-" ++ needle).toList t := by
  intro h
  rcases readWord_eq_ok_iff.mp (readWord_eq_ok_iff_standsFor.mpr h) with
    hkeyword | ⟨-, value, hvalue, -⟩
  · rw [String.ofList_toList] at hkeyword
    have hnone : ofKeyword? ("count-" ++ needle) = none := ofKeyword?_count needle
    rw [hnone] at hkeyword
    cases hkeyword
  · exact not_isDecimal_count needle (number?_eq_some_iff.mp hvalue).1

/-! ### Writing what was read -/

/-- A token is written as the word that it was read from, less the zeros in front of a number. -/
theorem text_of_standsFor {word : List Char} (h : StandsFor word t) :
    t.text.toList = if isDecimal word = true then withoutZeros word else word := by
  cases h with
  | call f =>
    have hword : isDecimal f.keyword.toList = false := by cases f <;> decide
    rw [if_neg (by simp [hword])]
    rfl
  | total => rw [if_neg (by decide)]; rfl
  | average => rw [if_neg (by decide)]; rfl
  | @number _ value hword hvalue =>
    rw [if_pos hword, ← decimal_decimalValue hword]
    have hnonneg : 0 ≤ value.toInt := by
      rw [hvalue]
      exact Int.natCast_nonneg _
    show value.text.toList = _
    rw [Value.toList_text hnonneg, hvalue, Int.toNat_natCast]

theorem text_of_ofText? (h : ofText? word = some t) :
    t.text = if isDecimal word.toList = true then String.ofList (withoutZeros word.toList)
      else word := by
  rcases ofText?_eq_some_iff.mp h with hword | ⟨needle, -, rfl, rfl⟩
  · rw [← String.toList_inj, text_of_standsFor hword]
    split
    · rw [String.toList_ofList]
    · rfl
  · rw [if_neg (not_isDecimal_count needle)]
    rfl

/-- **Tokens and stored forms.** A proper token is read from the word that it is written as, and
    only proper tokens are ever read, from operands or from stored forms.  A stored form is written
    again as it was, but for zeros in front of a number.  So no two proper tokens are written as the
    same word. -/
theorem stored_form_round_trips :
    (∀ t : Token, t.Proper → ofText? t.text = some t) ∧
    (∀ text tokens, Operand.read text = .ok tokens → ∀ t ∈ tokens, t.Proper) ∧
    (∀ word t, ofText? word = some t → t.Proper ∧
      t.text = if isDecimal word.toList = true then String.ofList (withoutZeros word.toList)
        else word) ∧
    ∀ t u : Token, t.Proper → u.Proper → t.text = u.text → t = u := by
  refine ⟨fun t => ofText?_text, fun text tokens h t => Operand.proper_of_read h,
    fun word t h => ⟨proper_of_ofText? h, text_of_ofText? h⟩, ?_⟩
  intro t u ht hu htext
  have hread := ofText?_text ht
  rw [htext, ofText?_text hu] at hread
  exact (Option.some.inj hread).symm

theorem stored_form_round_trips_of_nested_count :
    (leaf (.count "count-07")).text = "count-count-07" ∧
    ofText? "count-count-07" = some (leaf (.count "count-07")) ∧
    (∀ t, ofText? "007" = some t → t.text = "7") ∧
    ofText? "9223372036854775808" = none ∧
    ∀ t : Token, t.Proper → t.text = "count-count-07" → t = leaf (.count "count-07") := by
  have hproper : (leaf (.count "count-07")).Proper := by
    show "count-07" ≠ ""
    decide
  have htext : (leaf (.count "count-07")).text = "count-count-07" := by decide
  obtain ⟨hread, -, hwritten, hinj⟩ := stored_form_round_trips
  refine ⟨htext, htext ▸ hread _ hproper, ?_, by decide +kernel, ?_⟩
  · intro t ht
    rw [(hwritten "007" t ht).2]
    decide
  · intro t ht hsame
    exact hinj t _ ht hproper (hsame.trans htext.symm)

/-! ### The reader of operands and the reader of stored forms -/

theorem readWord_count (needle : String) :
    readWord ("count-" ++ needle).toList = .error (.unknownWord ("count-" ++ needle)) := by
  have hword : isDecimal ("count-" ++ needle).toList = false := by
    rw [Bool.eq_false_iff]
    exact not_isDecimal_count needle
  rw [readWord_eq_unknownWord hword (not_standsFor_count needle), String.ofList_toList]

/-- A word that stands for nothing is refused as a number that is too large, if it is one, and as
    unknown otherwise. -/
theorem readWord_eq_error_iff {word : List Char} {cause : WordError} :
    readWord word = .error cause ↔ (∀ t, ¬StandsFor word t) ∧
      cause = if isDecimal word = true ∧ Value.largest < decimalValue word
        then .numberTooLarge (String.ofList word) else .unknownWord (String.ofList word) := by
  by_cases hlarge : isDecimal word = true ∧ Value.largest < decimalValue word
  · have hread := readWord_eq_numberTooLarge hlarge.1 hlarge.2
    have hnone : ∀ t, ¬StandsFor word t := by
      intro t ht
      rw [readWord_eq_ok_iff_standsFor.mpr ht] at hread
      cases hread
    rw [hread, if_pos hlarge, Except.error.injEq, eq_comm, and_iff_right hnone]
  · by_cases hsome : ∃ t, StandsFor word t
    · obtain ⟨t, ht⟩ := hsome
      rw [readWord_eq_ok_iff_standsFor.mpr ht]
      exact ⟨nofun, fun h => absurd ht (h.1 t)⟩
    · rw [not_exists] at hsome
      have hword : isDecimal word = false := by
        -- digits that are not too large stand for a number
        rw [Bool.eq_false_iff]
        intro hword
        refine hlarge ⟨hword, (number?_eq_none_iff hword).mp ?_⟩
        rw [Option.eq_none_iff_forall_ne_some]
        intro value hvalue
        exact hsome _ (.number hword (number?_eq_some_iff.mp hvalue).2)
      rw [readWord_eq_unknownWord hword hsome, if_neg hlarge, Except.error.injEq, eq_comm,
        and_iff_right hsome]

/-- A word of digits is read by both readers as the number that it writes, if that is a value. -/
theorem read_decimal (hword : isDecimal word.toList = true)
    (hvalue : (decimalValue word.toList : Int) ≤ Value.largest) : ∃ value : Value,
      value.toInt = decimalValue word.toList ∧
      readWord word.toList = .ok (.leaf (.number value)) ∧
      ofText? word = some (.leaf (.number value)) := by
  obtain ⟨value, hsome⟩ : ∃ value, number? word.toList = some value := by
    rw [← Option.ne_none_iff_exists', ne_eq, number?_eq_none_iff hword]
    exact Int.not_lt.mpr hvalue
  obtain ⟨-, htoInt⟩ := number?_eq_some_iff.mp hsome
  have hstands : StandsFor word.toList (.leaf (.number value)) := .number hword htoInt
  exact ⟨value, htoInt, readWord_eq_ok_iff_standsFor.mpr hstands,
    ofText?_eq_some_iff.mpr (.inl hstands)⟩

/-- A number beyond the values is read by neither reader, and the reader of operands says why. -/
theorem read_decimal_beyond (hword : isDecimal word.toList = true)
    (hvalue : Value.largest < decimalValue word.toList) :
    readWord word.toList = .error (.numberTooLarge word) ∧ ofText? word = none := by
  have hread := readWord_eq_numberTooLarge hword hvalue
  rw [String.ofList_toList] at hread
  -- no digits have the mark of a count in front
  have hmark : ∀ needle, needle ≠ "" → word ≠ "count-" ++ needle := by
    rintro needle - rfl
    exact not_isDecimal_count needle hword
  exact ⟨hread, (ofText?_eq_none_iff_of_unmarked hmark).mpr (readWord_eq_error_iff.mp hread).1⟩

/-- Digits by themselves are the one number of their text. -/
theorem numbersIn_of_isDecimal (hword : isDecimal word.toList = true) :
    numbersIn word = [decimalValue word.toList] := by
  obtain ⟨hne, hdigits⟩ := isDecimal_iff.mp hword
  rw [numbersIn, pieces_of_forall_not hne (fun c hc => by simp [hdigits c hc]), List.map_singleton]

theorem stats_of_isDecimal (hword : isDecimal word.toList = true) :
    (NumberStats.ofText word).count = 1 ∧
    (NumberStats.ofText word).total.toInt = min (decimalValue word.toList : Int) Value.largest := by
  rw [NumberStats.count_ofText, NumberStats.toInt_total_ofText, numbersIn_of_isDecimal hword,
    Value.largest_eq]
  exact ⟨rfl, by simp; omega⟩

/-- **The readers agree.** They differ on the stored forms of counts only, which are no words of an
    operand.  Any other word is read by both as the same token or refused by both.  The reader of
    operands tells numbers that are too large from words that stand for nothing.  Digits, however
    many and however many zeros are in front, are read as the number that they write up to the
    largest value, and that number is the total of their text up to the same bound. -/
theorem readers_agree (word : String) :
    (∀ needle, needle ≠ "" → word = "count-" ++ needle →
      ofText? word = some (.leaf (.count needle)) ∧
      readWord word.toList = .error (.unknownWord word)) ∧
    ((∀ needle, needle ≠ "" → word ≠ "count-" ++ needle) →
      (∀ t, readWord word.toList = .ok t ↔ ofText? word = some t) ∧
      ∀ cause, readWord word.toList = .error cause ↔ ofText? word = none ∧
        cause = if isDecimal word.toList = true ∧ Value.largest < decimalValue word.toList
          then .numberTooLarge word else .unknownWord word) ∧
    (isDecimal word.toList = true →
      ((decimalValue word.toList : Int) ≤ Value.largest → ∃ value : Value,
        value.toInt = decimalValue word.toList ∧
        readWord word.toList = .ok (.leaf (.number value)) ∧
        ofText? word = some (.leaf (.number value))) ∧
      (Value.largest < decimalValue word.toList →
        readWord word.toList = .error (.numberTooLarge word) ∧ ofText? word = none) ∧
      (NumberStats.ofText word).count = 1 ∧
      (NumberStats.ofText word).total.toInt =
        min (decimalValue word.toList : Int) Value.largest) := by
  refine ⟨?_, fun hmark => ⟨fun t => ?_, fun cause => ?_⟩,
    fun hword => ⟨read_decimal hword, read_decimal_beyond hword, stats_of_isDecimal hword⟩⟩
  · rintro needle hne rfl
    exact ⟨ofText?_eq_some_iff.mpr (.inr ⟨needle, hne, rfl, rfl⟩), readWord_count needle⟩
  · rw [readWord_eq_ok_iff_standsFor, ofText?_eq_some_iff_of_unmarked hmark]
  · rw [readWord_eq_error_iff, ofText?_eq_none_iff_of_unmarked hmark, String.ofList_toList]

theorem readers_agree_at_largest :
    (ofText? "count-7" = some (.leaf (.count "7")) ∧
      readWord "count-7".toList = .error (.unknownWord "count-7")) ∧
    (∀ t, readWord "count-".toList = .ok t ↔ ofText? "count-" = some t) ∧
    (∃ value : Value, value.toInt = Value.largest ∧
      readWord "009223372036854775807".toList = .ok (.leaf (.number value)) ∧
      ofText? "009223372036854775807" = some (.leaf (.number value))) ∧
    (readWord "9223372036854775808".toList = .error (.numberTooLarge "9223372036854775808") ∧
      ofText? "9223372036854775808" = none) ∧
    (NumberStats.ofText "9223372036854775808").total.toInt = Value.largest := by
  have hlargest : (decimalValue "009223372036854775807".toList : Int) = Value.largest := by decide
  have hbeyond : Value.largest < decimalValue "9223372036854775808".toList := by decide
  have hmark : ∀ needle, needle ≠ "" → "count-" ≠ "count-" ++ needle := by
    intro needle hne hword
    have hlength := congrArg String.length hword
    rw [String.length_append, Nat.left_eq_add, String.length_eq_zero_iff] at hlength
    exact hne hlength
  obtain ⟨value, htoInt, hread⟩ :=
    ((readers_agree "009223372036854775807").2.2 (by decide)).1 (Int.le_of_eq hlargest)
  obtain ⟨-, hrefused, -, htotal⟩ := (readers_agree "9223372036854775808").2.2 (by decide)
  refine ⟨(readers_agree "count-7").1 "7" (by decide) (by decide),
    ((readers_agree "count-").2.1 hmark).1, ⟨value, htoInt.trans hlargest, hread⟩,
    hrefused hbeyond, ?_⟩
  rw [htotal, Int.min_eq_right (Int.le_of_lt hbeyond)]

end Token

end TextRules
