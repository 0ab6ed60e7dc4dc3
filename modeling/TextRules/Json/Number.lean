import TextRules.Text.Decimal

namespace TextRules

/-!
# Numbers in JSON

A number has a whole part, and perhaps a fraction and an exponent.  Its value is never needed but
as a natural number, or to tell whether it can be kept as a 64-bit floating-point number.
-/

namespace Json

/-- A number as it is written.  The fraction is empty where there is no decimal point. -/
structure Number where
  negative : Bool
  whole : Nat
  fraction : List Char
  exponent : Option Int
  deriving DecidableEq

/-! ### Rounding -/

/-- The nearest natural number with at most 53 significant binary digits.  Of two that are equally
    near, the one with the even significand is taken. -/
def nearestFloat (n : Nat) : Nat :=
  let unit := Nat.pow 2 (n.log2 - 52)
  let rest := n % unit
  if 2 * rest < unit ∨ (2 * rest = unit ∧ n / unit % 2 = 0) then n - rest else n - rest + unit

/-- From here on, numbers are rounded to infinity: half a step above the largest finite one. -/
def floatLimit : Nat := Nat.pow 2 1024 - Nat.pow 2 970

/-- Puts digits behind a number as long as it stays below 2 ^ 64.  The digits after the first that
    does not fit are left over. -/
def appendDigits (n : Nat) : List Char → Nat × List Char
  | [] => (n, [])
  | c :: rest =>
    let longer := 10 * n + (c.toNat - '0'.toNat)
    if longer < UInt64.size then appendDigits longer rest else (n, c :: rest)

namespace Number

/-- The natural number that is written without a sign, a point or an exponent. -/
def nat? (n : Number) : Option Nat :=
  if n.negative = false ∧ n.fraction = [] ∧ n.exponent = none then some n.whole else none

/-- The leading digits of a number as a natural number below 2 ^ 64, and the power of ten that it
    is multiplied with.  Each part of the number gives as many of its digits as fit. -/
def scaled (n : Number) : Nat × Int :=
  let (whole, wholeLeft) := appendDigits 0 (decimal n.whole)
  let (digits, fractionLeft) := appendDigits whole n.fraction
  (digits, wholeLeft.length - (n.fraction.length - fractionLeft.length : Nat) + n.exponent.getD 0)

/-- Whether a number is finite when its leading digits and the power of ten are both rounded and
    their product is rounded again.  A power above the 308th is beyond every number but zero. -/
def isFinite (n : Number) : Bool :=
  let (digits, power) := n.scaled
  digits == 0 || (power ≤ 308 &&
    nearestFloat digits * nearestFloat (Nat.pow 10 power.toNat) < floatLimit)

end Number

/-! ### Reading -/

/-- The digits at the start of a text, at least one, and what follows them. -/
def readDigits? (text : List Char) : Option (List Char × List Char) :=
  match text.takeWhile Char.isDigit with
  | [] => none
  | digits => some (digits, text.dropWhile Char.isDigit)

/-- The digits before a decimal point.  Only the number zero starts with the digit zero. -/
def readWhole? (text : List Char) : Option (List Char × List Char) :=
  (readDigits? text).filter fun (digits, _) => digits.head? != some '0' || digits.length == 1

/-- The digits of a fraction, if there is a decimal point. -/
def readFraction : List Char → Option (List Char × List Char)
  | '.' :: rest => readDigits? rest
  | text => some ([], text)

/-- The exponent, if there is one. -/
def readExponent (text : List Char) : Option (Option Int × List Char) :=
  match text with
  | [] => some (none, [])
  | c :: rest =>
    if c = 'e' ∨ c = 'E' then
      match rest with
      | '-' :: rest => (readDigits? rest).map fun (ds, after) => (some (-decimalValue ds), after)
      | '+' :: rest => (readDigits? rest).map fun (ds, after) => (some (decimalValue ds), after)
      | _ => (readDigits? rest).map fun (ds, after) => (some (decimalValue ds), after)
    else some (none, text)

/-- A number without its sign. -/
def readUnsigned (negative : Bool) (text : List Char) : Option (Number × List Char) := do
  let (digits, rest) ← readWhole? text
  let (fraction, rest) ← readFraction rest
  let (exponent, rest) ← readExponent rest
  return (⟨negative, decimalValue digits, fraction, exponent⟩, rest)

/-- A number. -/
def readNumber : List Char → Option (Number × List Char)
  | '-' :: rest => readUnsigned true rest
  | text => readUnsigned false text

/-! ### Reading goes forward -/

theorem length_lt_of_readDigits? {text digits after : List Char}
    (h : readDigits? text = some (digits, after)) : after.length < text.length := by
  have both : (text.takeWhile Char.isDigit).length + (text.dropWhile Char.isDigit).length =
      text.length := by
    rw [← List.length_append, List.takeWhile_append_dropWhile]
  unfold readDigits? at h
  split at h
  · simp at h
  · next hne =>
    simp only [Option.some.injEq, Prod.mk.injEq] at h
    have := List.length_pos_iff.2 hne
    rw [h.2] at both
    omega

theorem length_le_of_readFraction {text digits after : List Char}
    (h : readFraction text = some (digits, after)) : after.length ≤ text.length := by
  unfold readFraction at h
  split at h
  · have := length_lt_of_readDigits? h
    simp only [List.length_cons]
    omega
  · simp_all

theorem length_le_of_readExponent {text after : List Char} {exponent : Option Int}
    (h : readExponent text = some (exponent, after)) : after.length ≤ text.length := by
  unfold readExponent at h
  split at h
  · simp_all
  · split at h
    · split at h <;>
      · obtain ⟨⟨_, _⟩, hd, he⟩ := Option.map_eq_some_iff.1 h
        have := length_lt_of_readDigits? hd
        simp_all
        omega
    · simp_all

theorem length_lt_of_readUnsigned {negative : Bool} {text after : List Char} {n : Number}
    (h : readUnsigned negative text = some (n, after)) : after.length < text.length := by
  simp only [readUnsigned, bind, Option.bind_eq_some_iff] at h
  obtain ⟨⟨_, _⟩, hd, ⟨_, _⟩, hf, ⟨_, _⟩, he, h⟩ := h
  have hw := length_lt_of_readDigits? (Option.filter_eq_some_iff.1 hd).1
  have hx := length_le_of_readFraction hf
  have hy := length_le_of_readExponent he
  simp only [pure, Option.some.injEq, Prod.mk.injEq] at h hx hy
  rw [h.2] at hy
  omega

theorem length_lt_of_readNumber {text after : List Char} {n : Number}
    (h : readNumber text = some (n, after)) : after.length < text.length := by
  unfold readNumber at h
  split at h
  · exact Nat.lt_succ_of_lt (length_lt_of_readUnsigned h)
  · exact length_lt_of_readUnsigned h

end Json

end TextRules
