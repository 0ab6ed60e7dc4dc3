namespace TextRules

/-!
# Bytes of characters

The characters between two others, as sequences of ranges of bytes in UTF-8: one of the bytes in
each range, in order, makes up one of the characters.
-/

namespace Pattern

/-- A range of bytes, both ends included. -/
abbrev ByteRange := Nat × Nat

/-- The last code points of characters of one, two and three bytes. -/
def lengthLimits : List Nat := [0x7F, 0x7FF, 0xFFFF]

/-- The numbers of characters that share all bytes but the last one, two or three. -/
def blockSizes : List Nat := [0x40, 0x1000, 0x40000]

/-- Where a range has to be cut so that it begins or ends with a whole block, unless it lies within
    a block: the end of the first part. -/
def blockCut? (first last size : Nat) : Option Nat :=
  if first / size = last / size then none
  else if first % size ≠ 0 then some (first / size * size + (size - 1))
  else if last % size ≠ size - 1 then some (last / size * size - 1)
  else none

/-- Where a range has to be cut so that its characters have the same number of bytes, and all bytes
    behind one that differs can be any: the ends of the first part and the start of the second. -/
def cut? (first last : Nat) : Option (Nat × Nat) :=
  if first < 0xE000 ∧ 0xD7FF < last then some (0xD7FF, 0xE000)
  else
    let limit := lengthLimits.find? fun n => decide (first ≤ n) && decide (n < last)
    let cut := limit.or (if last ≤ 0x7F then none else blockSizes.findSome? (blockCut? first last))
    cut.map fun n => (n, n + 1)

/-- The bytes of a character. -/
def bytes (n : Nat) : List Nat := (String.utf8EncodeChar (Char.ofNat n)).map (·.toNat)

/-- The sequences for a range of characters, in ascending order.  The fuel bounds the number of
    cuts, of which there are never more than twenty. -/
def sequences : Nat → Nat → Nat → List (List ByteRange)
  | 0, _, _ => []
  | fuel + 1, first, last =>
    match cut? first last with
    | some (stop, start) => sequences fuel first stop ++ sequences fuel start last
    | none => if first ≤ last then [(bytes first).zip (bytes last)] else []

/-- The sequences for several ranges of characters. -/
def allSequences (ranges : List (Nat × Nat)) : List (List ByteRange) :=
  ranges.flatMap fun range => sequences 32 range.1 range.2

example : sequences 32 0x7E 0x81 = [[(0x7E, 0x7F)], [(0xC2, 0xC2), (0x80, 0x81)]] := by
  decide +kernel

end Pattern

end TextRules
