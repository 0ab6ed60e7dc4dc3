import TextRules.Json.Number
import TextRules.Text.Hexadecimal

namespace TextRules

/-!
# Lexemes of JSON

A JSON text is a sequence of marks, literal words, numbers and strings, with blanks between them.
It is cut into these lexemes up to the first place where none can be read.
-/

namespace Json

/-- A part of a JSON text.  The content of a string is missing when a code unit in it is half of a
    pair. -/
inductive Lexeme
  | mark (c : Char)
  | null
  | bool (b : Bool)
  | num (n : Number)
  | str (content : Option String)
  | bad
  deriving DecidableEq

/-- Whether a character may stand between lexemes. -/
def isSpace (c : Char) : Bool := c == ' ' || c == '\t' || c == '\n' || c == '\r'

/-- Whether a character is a lexeme by itself. -/
def isMark (c : Char) : Bool :=
  c == '[' || c == ']' || c == '\x7b' || c == '\x7d' || c == ',' || c == ':'

/-! ### Strings -/

/-- A part of a string: a character, or a 16-bit code unit given by its number. -/
inductive Piece
  | char (c : Char)
  | unit (n : Nat)
  deriving DecidableEq

/-- The character that a letter after a backslash stands for. -/
def unescape? (c : Char) : Option Char :=
  if c = '"' ∨ c = '\\' ∨ c = '/' then some c
  else if c = 'b' then some '\x08'
  else if c = 'f' then some '\x0c'
  else if c = 'n' then some '\n'
  else if c = 'r' then some '\r'
  else if c = 't' then some '\t'
  else none

/-- The pieces of a string up to its closing quote, and what follows it. -/
def readPieces : List Char → Option (List Piece × List Char)
  | [] => none
  | '"' :: rest => some ([], rest)
  | '\\' :: 'u' :: a :: b :: c :: d :: rest => do
    let n ← hexValue? [a, b, c, d]
    let (pieces, after) ← readPieces rest
    return (.unit n :: pieces, after)
  | '\\' :: e :: rest => do
    let c ← unescape? e
    let (pieces, after) ← readPieces rest
    return (.char c :: pieces, after)
  | c :: rest =>
    if c = '\\' ∨ c < ' ' then none
    else do
      let (pieces, after) ← readPieces rest
      return (.char c :: pieces, after)

/-- Whether a code unit is the first half of a pair. -/
def isHighHalf (n : Nat) : Bool := 0xD800 ≤ n && n ≤ 0xDBFF

/-- Whether a code unit is the second half of a pair. -/
def isLowHalf (n : Nat) : Bool := 0xDC00 ≤ n && n ≤ 0xDFFF

/-- The characters of a string.  Two halves of a pair are one character, a single half is none. -/
def joinPieces : List Piece → Option (List Char)
  | [] => some []
  | .char c :: rest => (joinPieces rest).map fun cs => c :: cs
  | .unit high :: .unit low :: rest =>
    if isHighHalf high then
      if isLowHalf low then
        (joinPieces rest).map fun cs =>
          Char.ofNat (0x10000 + (high - 0xD800) * 0x400 + (low - 0xDC00)) :: cs
      else none
    else if isLowHalf high then none
    else (joinPieces (.unit low :: rest)).map fun cs => Char.ofNat high :: cs
  | .unit n :: rest =>
    if isHighHalf n || isLowHalf n then none
    else (joinPieces rest).map fun cs => Char.ofNat n :: cs

/-! ### Reading goes forward -/

theorem length_lt_of_readPieces {text after : List Char} {pieces : List Piece}
    (h : readPieces text = some (pieces, after)) : after.length < text.length := by
  fun_induction readPieces text generalizing pieces after with
  | case1 => simp at h
  | case2 => simp_all
  | case3 a b c d rest ih =>
    simp only [bind, Option.bind_eq_some_iff, pure, Option.some.injEq, Prod.mk.injEq] at h
    obtain ⟨_, _, ⟨_, _⟩, hr, _, rfl⟩ := h
    have := ih hr
    simp only [List.length_cons]
    omega
  | case4 e rest _ ih =>
    simp only [bind, Option.bind_eq_some_iff, pure, Option.some.injEq, Prod.mk.injEq] at h
    obtain ⟨_, _, ⟨_, _⟩, hr, _, rfl⟩ := h
    have := ih hr
    simp only [List.length_cons]
    omega
  | case5 => simp at h
  | case6 c rest _ _ _ _ ih =>
    simp only [bind, Option.bind_eq_some_iff, pure, Option.some.injEq, Prod.mk.injEq] at h
    obtain ⟨⟨_, _⟩, hr, _, rfl⟩ := h
    have := ih hr
    simp only [List.length_cons]
    omega

/-! ### All lexemes -/

/-- The lexeme that starts with a character, and what follows it. -/
def readLexeme (c : Char) (rest : List Char) : Option (Lexeme × List Char) :=
  if isMark c then some (.mark c, rest)
  else if c = '"' then
    (readPieces rest).map fun (pieces, after) =>
      (.str ((joinPieces pieces).map String.ofList), after)
  else
    match c, rest with
    | 'n', 'u' :: 'l' :: 'l' :: after => some (.null, after)
    | 't', 'r' :: 'u' :: 'e' :: after => some (.bool true, after)
    | 'f', 'a' :: 'l' :: 's' :: 'e' :: after => some (.bool false, after)
    | _, _ => (readNumber (c :: rest)).map fun (n, after) => (.num n, after)

theorem length_le_of_readLexeme {c : Char} {rest after : List Char} {l : Lexeme}
    (h : readLexeme c rest = some (l, after)) : after.length ≤ rest.length := by
  unfold readLexeme at h
  split at h
  · simp_all
  · split at h
    · obtain ⟨⟨_, _⟩, hp, he⟩ := Option.map_eq_some_iff.1 h
      obtain ⟨-, rfl⟩ := Prod.mk.inj he
      exact Nat.le_of_lt (length_lt_of_readPieces hp)
    · split at h
      · obtain ⟨-, rfl⟩ := Prod.mk.inj (Option.some.inj h)
        exact Nat.le_add_right _ 3
      · obtain ⟨-, rfl⟩ := Prod.mk.inj (Option.some.inj h)
        exact Nat.le_add_right _ 3
      · obtain ⟨-, rfl⟩ := Prod.mk.inj (Option.some.inj h)
        exact Nat.le_add_right _ 4
      · obtain ⟨⟨_, _⟩, hn, he⟩ := Option.map_eq_some_iff.1 h
        obtain ⟨-, rfl⟩ := Prod.mk.inj he
        exact Nat.le_of_lt_succ (length_lt_of_readNumber hn)

/-- The lexemes of a text.  What no lexeme starts ends the list as a bad one. -/
def lexemes (text : List Char) : List Lexeme :=
  match _blanks : text.dropWhile isSpace with
  | [] => []
  | c :: rest =>
    match _lexeme : readLexeme c rest with
    | none => [.bad]
    | some (l, after) => l :: lexemes after
termination_by text.length
decreasing_by
  have skipped := (List.dropWhile_suffix (l := text) isSpace).length_le
  rw [_blanks, List.length_cons] at skipped
  have := length_le_of_readLexeme _lexeme
  omega

example : lexemes "[1.50, \"\\u0041\"] x".toList =
    [.mark '[', .num ⟨false, 1, ['5', '0'], none⟩, .mark ',', .str (some "A"), .mark ']',
      .bad] := by
  decide +kernel

end Json

end TextRules
