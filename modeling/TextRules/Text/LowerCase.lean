import TextRules.Text.CaseRun
import TextRules.Text.Cased

namespace TextRules

/-!
# Lower case of a text

Lower-casing goes character by character, with one exception: a capital sigma becomes the final
form `ς` at the end of a word and `σ` elsewhere.  What counts as the end of a word is read off the
text as it was before lower-casing.
-/

/-- The lower case of a character on its own.  Only the dotted capital I has two characters. -/
def lowerChar (c : Char) : List Char :=
  if c = '\u0130' then ['i', '\u0307'] else [Char.ofNat (lowerCodePoint c.toNat)]

/-- Whether the first character that is not passed over is a cased letter. -/
def startsCased (text : List Char) : Bool :=
  (text.find? fun c => !isCaseIgnorable c).any isCased

/-- Whether a word ends between `before`, read backwards, and `after`: a letter stands before the
    place and none after it. -/
def endsWord (before after : List Char) : Bool := startsCased before && !startsCased after

/-- The lower case of a text that follows `before`, which is given backwards. -/
def lowerAfter (before : List Char) : List Char → List Char
  | [] => []
  | c :: after =>
    (if c = 'Σ' then [if endsWord before after then 'ς' else 'σ'] else lowerChar c) ++
      lowerAfter (c :: before) after

/-- The lower case of a text. -/
def lowerCase (text : List Char) : List Char := lowerAfter [] text

/-! ### Where no sigma stands, the surroundings play no part -/

theorem lowerAfter_eq_flatMap {text : List Char} (h : 'Σ' ∉ text) (before : List Char) :
    lowerAfter before text = text.flatMap lowerChar := by
  induction text generalizing before with
  | nil => rfl
  | cons c rest ih =>
    simp only [List.mem_cons, not_or] at h
    simp [lowerAfter, Ne.symm h.1, ih h.2]

theorem lowerCase_eq_flatMap {text : List Char} (h : 'Σ' ∉ text) :
    lowerCase text = text.flatMap lowerChar :=
  lowerAfter_eq_flatMap h []

example : lowerCase "ΟΔΟΣ ΣΑΣ".toList = "οδος σας".toList := by decide +kernel

end TextRules
