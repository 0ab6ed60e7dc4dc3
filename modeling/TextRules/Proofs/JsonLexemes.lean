import TextRules.Json.Lexeme
import TextRules.Json.Writer

namespace TextRules

/-!
# The lexemes of written values

A writer puts strings, integers and marks one after the other.  Here each of them is read again as
the one lexeme that it is, whatever follows it, as long as that cannot be taken for a part of it
(`Ends`).

* `Json.readPieces_flatMap_escape` — the characters of a string are read up to its closing quote.
* `Json.readNumber_integer` — an integer is read to its last digit and not further.
* `Json.lexemes_mark`, `Json.lexemes_quote`, `Json.lexemes_integer`, `Json.lexemes_bool` — what is
  written goes off the front of a text as one lexeme, and blanks as none
  (`Json.lexemes_spaces_append`).
-/

namespace Json

/-! ### What may follow -/

/-- A text that goes on with a mark or a blank, or not at all, ends whatever lexeme stands in front
    of it. -/
def Ends (rest : List Char) : Prop := ∀ c ∈ rest.head?, isMark c = true ∨ isSpace c = true

theorem ends_nil : Ends [] := by
  intro c hc
  cases hc

theorem ends_mark {c : Char} (hc : isMark c = true) (rest : List Char) : Ends (c :: rest) := by
  intro d hd
  obtain rfl : c = d := by simpa using hd
  exact .inl hc

theorem ends_spaces_append {spaces rest : List Char} (hspaces : ∀ c ∈ spaces, isSpace c = true)
    (hrest : Ends rest) : Ends (spaces ++ rest) := by
  cases spaces with
  | nil => exact hrest
  | cons c spaces =>
    intro d hd
    obtain rfl : c = d := by simpa using hd
    exact .inr (hspaces c List.mem_cons_self)

/-- No number goes on with a mark or a blank. -/
theorem Ends.not_number {c : Char} {rest : List Char} (h : Ends (c :: rest)) :
    c.isDigit = false ∧ c ≠ '.' ∧ c ≠ 'e' ∧ c ≠ 'E' := by
  have hmem : c ∈ ['[', ']', '\x7b', '\x7d', ',', ':', ' ', '\t', '\n', '\r'] := by
    simpa [isMark, isSpace, or_assoc] using h c rfl
  have htable : (['[', ']', '\x7b', '\x7d', ',', ':', ' ', '\t', '\n', '\r'].all fun c =>
      !c.isDigit && c != '.' && c != 'e' && c != 'E') = true := by
    decide
  simpa [and_assoc] using List.all_eq_true.mp htable c hmem

/-! ### Strings -/

/-- The controls that are escaped by a letter. -/
def controlsWithLetter : List Char := ['\x08', '\t', '\n', '\x0c', '\r']

/-- The piece as which a character is written: a control without a letter of its own goes by its
    number. -/
def pieceOf (c : Char) : Piece :=
  if c < ' ' ∧ c ∉ controlsWithLetter then .unit c.toNat else .char c

/-- The number of a control, in four digits. -/
theorem hexValue?_control {n : Nat} (hn : n < 0x20) :
    hexValue? ['0', '0', Nat.digitChar (n / 16), Nat.digitChar (n % 16)] = some n := by
  have htable : ∀ n : Fin 0x20,
      hexValue? ['0', '0', Nat.digitChar (n / 16), Nat.digitChar (n % 16)] = some n.val := by
    decide
  exact htable ⟨n, hn⟩

/-- A character that needs no escape is read as itself. -/
theorem readPieces_plain {c : Char} (hmarked : ¬(c = '"' ∨ c = '\\')) (hcontrol : ¬c < ' ')
    (rest : List Char) :
    readPieces (c :: rest) =
      (readPieces rest).map fun (pieces, after) => (.char c :: pieces, after) := by
  rw [not_or] at hmarked
  rw [readPieces.eq_5 c rest hmarked.1 (by simp [hmarked.2]) (by simp [hmarked.2]),
    if_neg (not_or.mpr ⟨hmarked.2, hcontrol⟩), Option.map_eq_bind]
  rfl

/-- A letter after a backslash is read as the character that it stands for. -/
theorem readPieces_letter {letter c : Char} (hletter : unescape? letter = some c)
    (rest : List Char) :
    readPieces ('\\' :: letter :: rest) =
      (readPieces rest).map fun (pieces, after) => (.char c :: pieces, after) := by
  have hnumber : letter ≠ 'u' := by
    have hnone : unescape? 'u' = none := by decide
    rintro rfl
    rw [hnone] at hletter
    cases hletter
  rw [readPieces.eq_4 letter rest (by simp [hnumber]), hletter, Option.map_eq_bind]
  rfl

/-- An escaped character is read as one piece. -/
theorem readPieces_escape (c : Char) (rest : List Char) :
    readPieces (escape c ++ rest) =
      (readPieces rest).map fun (pieces, after) => (pieceOf c :: pieces, after) := by
  by_cases hmarked : c = '"' ∨ c = '\\'
  · rw [escape, if_pos hmarked]
    obtain rfl | rfl := hmarked
    · exact readPieces_letter (by decide) rest
    · exact readPieces_letter (by decide) rest
  · by_cases hletter : c ∈ controlsWithLetter
    · simp only [controlsWithLetter, List.mem_cons, List.not_mem_nil, or_false] at hletter
      obtain rfl | rfl | rfl | rfl | rfl := hletter
      all_goals exact readPieces_letter (by decide) rest
    · have hchain := hletter
      simp only [controlsWithLetter, List.mem_cons, List.not_mem_nil, or_false, not_or] at hchain
      obtain ⟨hb, ht, hn, hf, hr⟩ := hchain
      rw [escape, if_neg hmarked, if_neg hb, if_neg ht, if_neg hn, if_neg hf, if_neg hr]
      by_cases hcontrol : c < ' '
      · -- a control without a letter goes by its number
        have hvalue := hexValue?_control (n := c.toNat) hcontrol
        rw [if_pos hcontrol, pieceOf, if_pos ⟨hcontrol, hletter⟩, Option.map_eq_bind]
        simp only [List.cons_append, List.nil_append, readPieces.eq_3, hvalue]
        rfl
      · rw [if_neg hcontrol, pieceOf, if_neg fun h => hcontrol h.1]
        exact readPieces_plain hmarked hcontrol rest

/-- **The pieces of a string** are read up to its closing quote. -/
theorem readPieces_flatMap_escape (text rest : List Char) :
    readPieces (text.flatMap escape ++ '"' :: rest) = some (text.map pieceOf, rest) := by
  induction text with
  | nil => exact readPieces.eq_2 rest
  | cons c text ih =>
    rw [List.flatMap_cons, List.append_assoc, readPieces_escape, ih]
    rfl

/-- A code unit that is not half of a pair is a character by itself. -/
theorem joinPieces_unit {n : Nat} (hn : n < 0xD800) (pieces : List Piece) :
    joinPieces (.unit n :: pieces) = (joinPieces pieces).map fun cs => Char.ofNat n :: cs := by
  have hhigh : isHighHalf n = false := by simp [isHighHalf]; omega
  have hlow : isLowHalf n = false := by simp [isLowHalf]; omega
  cases pieces with
  | nil => simp [joinPieces, hhigh, hlow]
  | cons piece pieces =>
    -- a unit that follows is looked at only behind the first half of a pair
    cases piece <;> rw [joinPieces.eq_def] <;> simp [hhigh, hlow]

/-- The pieces of a written text join to the text. -/
theorem joinPieces_map_pieceOf (text : List Char) :
    joinPieces (text.map pieceOf) = some text := by
  induction text with
  | nil => rfl
  | cons c text ih =>
    rw [List.map_cons, pieceOf]
    split
    next hc =>
      have hcontrol : c.toNat < 0x20 := hc.1
      rw [joinPieces_unit (by omega), ih, Option.map_some, Char.ofNat_toNat]
    next => rw [joinPieces, ih, Option.map_some]

/-! ### Numbers -/

/-- The number as which an integer is written. -/
def Number.ofInt (n : Int) : Number := ⟨decide (n < 0), n.natAbs, [], none⟩

/-- Only zero is written with a leading zero. -/
theorem head?_decimal {n : Nat} (hn : n ≠ 0) : (decimal n).head? ≠ some '0' := by
  induction n using Nat.strongRecOn with
  | ind n ih =>
    by_cases hsmall : n < 10
    · have htable : ∀ d : Fin 10, d.val ≠ 0 → [Nat.digitChar d.val].head? ≠ some '0' := by decide
      rw [decimal, Nat.toDigits_of_lt_base hsmall]
      exact htable ⟨n, hsmall⟩ hn
    · -- the leading digits are those of a tenth
      have hfirst := ih (n / 10) (by omega) (by omega)
      rw [decimal, Nat.toDigits_of_base_le (by decide) (by omega), ← decimal, List.head?_append]
      cases hhead : (decimal (n / 10)).head? with
      | none => exact absurd (List.head?_eq_none_iff.mp hhead) Nat.toDigits_ne_nil
      | some c => rwa [hhead] at hfirst

/-- A run of digits is read as such up to a character that is none. -/
theorem readDigits?_append {digits rest : List Char} (hne : digits ≠ [])
    (hdigits : ∀ c ∈ digits, c.isDigit = true) (hrest : ∀ c ∈ rest.head?, c.isDigit = false) :
    readDigits? (digits ++ rest) = some (digits, rest) := by
  have hstop : rest.takeWhile Char.isDigit = [] ∧ rest.dropWhile Char.isDigit = rest := by
    cases rest with
    | nil => exact ⟨rfl, rfl⟩
    | cons c rest => simp [hrest c rfl]
  obtain ⟨c, tail, rfl⟩ := List.exists_cons_of_ne_nil hne
  rw [readDigits?, List.takeWhile_append_of_pos hdigits, List.dropWhile_append_of_pos hdigits,
    hstop.1, hstop.2, List.append_nil]

/-- A natural number is read to its last digit. -/
theorem readUnsigned_decimal (negative : Bool) (n : Nat) {rest : List Char} (hrest : Ends rest) :
    readUnsigned negative (decimal n ++ rest) = some (⟨negative, n, [], none⟩, rest) := by
  obtain ⟨hne, hdigits⟩ := isDecimal_iff.mp (isDecimal_decimal n)
  have hread : readDigits? (decimal n ++ rest) = some (decimal n, rest) := by
    refine readDigits?_append hne hdigits ?_
    cases rest with
    | nil => simp
    | cons c rest => simpa using hrest.not_number.1
  have hwhole : readWhole? (decimal n ++ rest) = some (decimal n, rest) := by
    rw [readWhole?, hread, Option.filter_some, if_pos]
    by_cases hn : n = 0
    · subst hn
      rfl
    · simp [head?_decimal hn]
  -- neither a point nor an exponent follows
  have hfraction : readFraction rest = some ([], rest) := by
    cases rest with
    | nil => rfl
    | cons c rest => exact readFraction.eq_2 _ fun _ h => hrest.not_number.2.1 (List.cons.inj h).1
  have hexponent : readExponent rest = some (none, rest) := by
    cases rest with
    | nil => rfl
    | cons c rest => simp [readExponent, hrest.not_number.2.2]
  simp only [readUnsigned, hwhole, hfraction, hexponent, bind, Option.bind_some, pure,
    decimalValue_decimal]

theorem decimal_eq_cons (n : Nat) : ∃ c digits, decimal n = c :: digits ∧ c.isDigit = true := by
  obtain ⟨hne, hdigits⟩ := isDecimal_iff.mp (isDecimal_decimal n)
  obtain ⟨c, digits, hcons⟩ := List.exists_cons_of_ne_nil hne
  exact ⟨c, digits, hcons, hdigits c (hcons ▸ List.mem_cons_self)⟩

/-- An integer starts with a digit or a minus sign. -/
theorem integer_eq_cons (n : Int) :
    ∃ c digits, integer n = c :: digits ∧ (c = '-' ∨ c.isDigit = true) := by
  cases n with
  | ofNat n =>
    obtain ⟨c, digits, hcons, hc⟩ := decimal_eq_cons n
    exact ⟨c, digits, hcons, .inr hc⟩
  | negSucc n => exact ⟨'-', _, rfl, .inl rfl⟩

/-- **An integer is read to its last digit.** -/
theorem readNumber_integer (n : Int) {rest : List Char} (hrest : Ends rest) :
    readNumber (integer n ++ rest) = some (Number.ofInt n, rest) := by
  cases n with
  | ofNat n =>
    obtain ⟨c, digits, hcons, hc⟩ := decimal_eq_cons n
    have hsign : ∀ after, decimal n ++ rest ≠ '-' :: after := by
      intro after h
      rw [hcons, List.cons_append, List.cons.injEq] at h
      rw [h.1] at hc
      cases hc
    rw [integer, readNumber.eq_2 _ hsign, readUnsigned_decimal false n hrest]
    rfl
  | negSucc n =>
    rw [Number.ofInt, decide_eq_true (Int.negSucc_lt_zero n)]
    exact readUnsigned_decimal true (n + 1) hrest

/-! ### Lexemes -/

@[simp] theorem lexemes_nil : lexemes [] = [] := by
  rw [lexemes]
  rfl

/-- Blanks in front of a text are no lexemes. -/
theorem lexemes_spaces_append {spaces : List Char} (hspaces : ∀ c ∈ spaces, isSpace c = true)
    (rest : List Char) : lexemes (spaces ++ rest) = lexemes rest := by
  rw [lexemes.eq_def, lexemes.eq_def rest, List.dropWhile_append_of_pos hspaces]

/-- A lexeme goes off the front of a text that does not start with a blank. -/
theorem lexemes_cons {c : Char} {rest after : List Char} {l : Lexeme} (hc : isSpace c = false)
    (h : readLexeme c rest = some (l, after)) : lexemes (c :: rest) = l :: lexemes after := by
  have hskipped : (c :: rest).dropWhile isSpace = c :: rest :=
    List.dropWhile_cons_of_neg (by simp [hc])
  rw [lexemes]
  split
  next hnil =>
    rw [hskipped] at hnil
    cases hnil
  next d tail hcons =>
    obtain ⟨rfl, rfl⟩ := List.cons.inj (hskipped.symm.trans hcons)
    split
    next hnone =>
      rw [h] at hnone
      cases hnone
    next hsome =>
      rw [h] at hsome
      cases hsome
      rfl

/-- A mark is a lexeme. -/
theorem lexemes_mark {c : Char} (hc : isMark c = true) (rest : List Char) :
    lexemes (c :: rest) = .mark c :: lexemes rest := by
  have hspace : isSpace c = false := by
    have hmem : c ∈ ['[', ']', '\x7b', '\x7d', ',', ':'] := by
      simpa [isMark, or_assoc] using hc
    have htable : (['[', ']', '\x7b', '\x7d', ',', ':'].all fun c => !isSpace c) = true := by
      decide
    simpa using List.all_eq_true.mp htable c hmem
  have hread : readLexeme c rest = some (.mark c, rest) := by
    unfold readLexeme
    rw [if_pos hc]
  exact lexemes_cons hspace hread

/-- A written string is a lexeme with its content. -/
theorem lexemes_quote (s : String) (rest : List Char) :
    lexemes (quote s ++ rest) = .str (some s) :: lexemes rest := by
  have hread : readLexeme '"' (s.toList.flatMap escape ++ '"' :: rest) =
      some (.str (some s), rest) := by
    simp [readLexeme, isMark, readPieces_flatMap_escape, joinPieces_map_pieceOf]
  have htext : quote s ++ rest = '"' :: (s.toList.flatMap escape ++ '"' :: rest) := by
    simp [quote]
  rw [htext]
  exact lexemes_cons (by decide) hread

/-- A written integer is a lexeme. -/
theorem lexemes_integer (n : Int) {rest : List Char} (hrest : Ends rest) :
    lexemes (integer n ++ rest) = .num (Number.ofInt n) :: lexemes rest := by
  obtain ⟨c, digits, hcons, hc⟩ := integer_eq_cons n
  have hnumber := readNumber_integer n hrest
  rw [hcons, List.cons_append] at hnumber ⊢
  -- no other lexeme starts with a digit or a minus sign
  have hother : c ∉ ['[', ']', '\x7b', '\x7d', ',', ':', ' ', '\t', '\n', '\r', '"', 'n', 't',
      'f'] := by
    have htable : (['[', ']', '\x7b', '\x7d', ',', ':', ' ', '\t', '\n', '\r', '"', 'n', 't',
        'f'].all fun d => d != '-' && !d.isDigit) = true := by
      decide
    intro hmem
    have hfirst := List.all_eq_true.mp htable c hmem
    rcases hc with rfl | hdigit
    · simp at hfirst
    · simp [hdigit] at hfirst
  simp only [List.mem_cons, List.not_mem_nil, or_false, not_or] at hother
  have hread : readLexeme c (digits ++ rest) = some (.num (Number.ofInt n), rest) := by
    unfold readLexeme
    simp [isMark, hother, hnumber]
  exact lexemes_cons (by simp [isSpace, hother]) hread

/-- A written truth value is a lexeme. -/
theorem lexemes_bool (b : Bool) (layout : Layout) (depth : Nat) (rest : List Char) :
    lexemes ((Json.bool b).write layout depth ++ rest) = .bool b :: lexemes rest := by
  cases b <;> exact lexemes_cons (by decide) rfl

end Json

end TextRules
