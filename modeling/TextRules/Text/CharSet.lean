import TextRules.Text.Hexadecimal
import TextRules.Text.Split

namespace TextRules

/-!
# Character sets

A set of characters given by ranges of code points, the form in which the Unicode standard lists
its character properties.  A set is tidy if its ranges are in ascending order and no two of them
touch.
-/

/-- The characters whose code points lie in one of the ranges, both ends included. -/
structure CharSet where
  ranges : List (Nat × Nat)
  deriving DecidableEq

namespace CharSet

/-- Whether a character lies in one of the ranges. -/
def contains (s : CharSet) (c : Char) : Bool :=
  s.ranges.any fun range => range.1 ≤ c.toNat && c.toNat ≤ range.2

theorem contains_iff {s : CharSet} {c : Char} :
    s.contains c = true ↔ ∃ range ∈ s.ranges, range.1 ≤ c.toNat ∧ c.toNat ≤ range.2 := by
  simp [contains]

/-- The set that a text lists: hexadecimal code points and ranges of them, with blanks or the end of
    a line between each two. -/
def ofText (text : String) : CharSet :=
  let parts := (splitAt '\n' text.toList).flatMap (splitAt ' ')
  ⟨(parts.filter fun part => !part.isEmpty).filterMap fun part =>
    match (splitAt '-' part).map hexValue? with
    | [some n] => some (n, n)
    | [some first, some last] => some (first, last)
    | _ => none⟩

/-! ### Tidy sets -/

/-- Adds a range to tidy ranges that do not start behind it, all with the last one first. -/
def addLast (ranges : List (Nat × Nat)) (range : Nat × Nat) : List (Nat × Nat) :=
  match ranges with
  | [] => [range]
  | last :: before =>
    if range.1 ≤ last.2 + 1 then (last.1, max last.2 range.2) :: before else range :: ranges

/-- The tidy set of some ranges. -/
def ofRanges (ranges : List (Nat × Nat)) : CharSet :=
  ⟨((ranges.mergeSort fun a b => a.1 ≤ b.1).foldl addLast []).reverse⟩

/-- The characters of either set. -/
def union (s t : CharSet) : CharSet := ofRanges (s.ranges ++ t.ranges)

/-- The characters of several sets. -/
def unions (sets : List CharSet) : CharSet := ofRanges (sets.flatMap (·.ranges))

/-- A single character. -/
def single (n : Nat) : CharSet := ⟨[(n, n)]⟩

/-- Whether all characters are ASCII. -/
def isAscii (s : CharSet) : Bool := s.ranges.all fun range => range.2 ≤ 0x7F

/-! ### What tidy sets share -/

/-- What two tidy lists of ranges share, after what has been found, the last one first.  Of two
    ranges, the one that ends first is done with. -/
def interFrom (found : List (Nat × Nat)) : List (Nat × Nat) → List (Nat × Nat) → List (Nat × Nat)
  | [], _ | _ :: _, [] => found.reverse
  | a :: s, b :: t =>
    let first := max a.1 b.1
    let last := min a.2 b.2
    let found := if first ≤ last then (first, last) :: found else found
    if a.2 < b.2 then interFrom found s (b :: t) else interFrom found (a :: s) t
termination_by s t => s.length + t.length

/-- The characters of both sets. -/
def inter (s t : CharSet) : CharSet := ⟨interFrom [] s.ranges t.ranges⟩

/-! ### What tidy sets leave out -/

/-- The last code point. -/
def lastCodePoint : Nat := 0x10FFFF

/-- The next character.  The code points of surrogates are passed over. -/
def next (n : Nat) : Nat := if n = 0xD7FF then 0xE000 else n + 1

/-- The character before.  The code points of surrogates are passed over. -/
def previous (n : Nat) : Nat := if n = 0xE000 then 0xD7FF else n - 1

/-- What lies between tidy ranges, the first of which starts a gap in front of it unless it starts
    at the very beginning. -/
def gaps (ranges : List (Nat × Nat)) : List (Nat × Nat) :=
  let before := (ranges.head?.filter fun range => 0 < range.1).map fun range =>
    (0, previous range.1)
  let between := ranges.zipWith (fun a b => (next a.2, previous b.1)) ranges.tail
  let after := (ranges.getLast?.filter fun range => range.2 < lastCodePoint).map fun range =>
    (next range.2, lastCodePoint)
  if ranges.isEmpty then [(0, lastCodePoint)] else before.toList ++ between ++ after.toList

/-- The characters that are not in a set.  Between a range that ends right in front of the
    surrogates and another that starts right behind them, the neighbours of the surrogates count as
    left out. -/
def complement (s : CharSet) : CharSet :=
  ⟨(gaps s.ranges).map fun gap => (min gap.1 gap.2, max gap.1 gap.2)⟩

/-- The characters of one set that are not in another. -/
def diff (s t : CharSet) : CharSet :=
  ⟨interFrom [] s.ranges ((gaps t.ranges).filter fun gap => gap.1 ≤ gap.2)⟩

/-- The characters of one of two sets that are not in both. -/
def symmDiff (s t : CharSet) : CharSet := (s.union t).diff (s.inter t)

example : ofText "41-5A\n   61" = ⟨[(0x41, 0x5A), (0x61, 0x61)]⟩ := by decide +kernel

example : ofRanges [(5, 7), (1, 2), (3, 5), (9, 9)] = ⟨[(1, 7), (9, 9)]⟩ := by cbv

example : diff ⟨[(1, 7)]⟩ ⟨[(0, 1), (4, 5)]⟩ = ⟨[(2, 3), (6, 7)]⟩ := by cbv

end CharSet

end TextRules
