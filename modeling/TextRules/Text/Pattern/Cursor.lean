import TextRules.Text.Blank
import TextRules.Text.Pattern.Fault

namespace TextRules

/-!
# Cursors

How far a pattern has been read.  On demand, blanks and comments between the parts of a pattern are
passed over.
-/

namespace Pattern

/-- A place in a pattern and what follows there. -/
structure Cursor where
  position : Position
  rest : List Char

namespace Cursor

/-- The beginning of a text. -/
def start (text : List Char) : Cursor := ⟨.start, text⟩

/-- The stretch from a place up to a cursor. -/
def since (c : Cursor) (start : Position) : Stretch := ⟨start, c.position⟩

/-- The stretch of the next character, which is empty at the end. -/
def here (c : Cursor) : Stretch :=
  match c.rest with
  | [] => .none c.position
  | x :: _ => .ofChar c.position x

/-- The cursor behind the next character. -/
def bump (c : Cursor) : Cursor :=
  match c.rest with
  | [] => c
  | x :: rest => ⟨c.position.after x, rest⟩

/-- The cursor behind several characters. -/
def bumps (c : Cursor) : Nat → Cursor
  | 0 => c
  | n + 1 => c.bump.bumps n

/-- The cursor behind blanks and comments.  A comment goes up to the end of its line. -/
def skipFrom (inComment : Bool) (p : Position) : List Char → Cursor
  | [] => ⟨p, []⟩
  | x :: rest =>
    if inComment then skipFrom (x != '\n') (p.after x) rest
    else if isBlank x then skipFrom false (p.after x) rest
    else if x = '#' then skipFrom true (p.after x) rest
    else ⟨p, x :: rest⟩

/-- The cursor behind blanks and comments, if they are passed over. -/
def skip (verbose : Bool) (c : Cursor) : Cursor :=
  if verbose then skipFrom false c.position c.rest else c

/-- The cursor behind the next character and what is passed over. -/
def bumpSkip (verbose : Bool) (c : Cursor) : Cursor := c.bump.skip verbose

theorem length_skipFrom_le (inComment : Bool) (p : Position) (text : List Char) :
    (skipFrom inComment p text).rest.length ≤ text.length := by
  induction text generalizing inComment p with
  | nil => exact Nat.le_refl 0
  | cons x rest ih =>
    simp only [skipFrom]
    split
    · exact Nat.le_succ_of_le (ih _ _)
    · split
      · exact Nat.le_succ_of_le (ih _ _)
      · split
        · exact Nat.le_succ_of_le (ih _ _)
        · exact Nat.le_refl _

theorem length_skip_le (verbose : Bool) (c : Cursor) :
    (c.skip verbose).rest.length ≤ c.rest.length := by
  unfold skip
  split
  · exact length_skipFrom_le false c.position c.rest
  · exact Nat.le_refl _

/-- Less is left behind the next character. -/
theorem length_bumpSkip_lt (verbose : Bool) {c : Cursor} {x : Char} {rest : List Char}
    (h : c.rest = x :: rest) : (c.bumpSkip verbose).rest.length < c.rest.length := by
  have hb : c.bump.rest = rest := by simp [bump, h]
  have hle := length_skip_le verbose c.bump
  rw [hb] at hle
  rw [h, List.length_cons]
  exact Nat.lt_succ_of_le hle

/-- The character behind the next one.  On demand, blanks and one comment sign are left out in
    looking for it, as long as any other character follows. -/
def second? (verbose : Bool) (c : Cursor) : Option Char :=
  let rest := c.rest.tail
  if verbose then
    let behind := rest.dropWhile isBlank
    let found :=
      if behind.head? = some '#' then (behind.tail.dropWhile isBlank).head? else behind.head?
    found.or rest.head?
  else rest.head?

end Cursor

/-- A reader of some part of a pattern. -/
abbrev Reader (α : Type) := Cursor → Except Flaw (α × Cursor)

example : (Cursor.start " #a\n b".toList |>.skip true).position = ⟨2, 2⟩ := by decide

end Pattern

end TextRules
