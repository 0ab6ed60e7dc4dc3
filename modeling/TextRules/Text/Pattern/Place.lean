import TextRules.Text.Bisection
import TextRules.Text.Pattern.Meaning

namespace TextRules

/-!
# Places in texts

What holds at a place in a text depends on the characters at both sides of it.
-/

/-- Whether a code point lies in one of some ranges, which are in ascending order. -/
def isWithin (ranges : Array (Nat × Nat)) (n : Nat) : Bool :=
  let i := turningPoint (fun i => ranges[i]?.any fun range => range.2 < n) 0 ranges.size
  ranges[i]?.any fun range => range.1 ≤ n

/-- The ranges of the word characters. -/
def wordRanges : Array (Nat × Nat) := Pattern.wordChars.ranges.toArray

/-- Whether a character belongs to words. -/
def isWordChar (ascii : Bool) (c : Char) : Bool :=
  if ascii || c.toNat ≤ 0x7F then c.isAlphanum || c == '_' else isWithin wordRanges c.toNat

/-- A place in a text: the characters at both sides of it. -/
structure Place where
  before : Option Char
  after : Option Char
  deriving DecidableEq

/-- Whether a condition holds, by whether there are word characters at both sides of a place. -/
def WordEdge.holds (edge : WordEdge) (before after : Bool) : Bool :=
  match edge with
  | .boundary => before != after
  | .noBoundary => before == after
  | .start => !before && after
  | .stop => before && !after
  | .noneBefore => !before
  | .noneAfter => !after

/-- Whether a condition holds at a place.  A line does not end between a carriage return and a line
    feed if both of them end it. -/
def Edge.holds (edge : Edge) (place : Place) : Bool :=
  match edge with
  | .textStart => place.before.isNone
  | .textEnd => place.after.isNone
  | .lineStart crlf =>
    place.before.isNone || place.before == some '\n' ||
      (crlf && place.before == some '\r' && place.after != some '\n')
  | .lineEnd crlf =>
    place.after.isNone || (crlf && place.after == some '\r') ||
      (place.after == some '\n' && !(crlf && place.before == some '\r'))
  | .word ascii edge =>
    edge.holds (place.before.any (isWordChar ascii)) (place.after.any (isWordChar ascii))

example : isWithin #[(1, 3), (5, 5)] 5 = true ∧ isWithin #[(1, 3), (5, 5)] 4 = false := by cbv

example : (Edge.lineEnd true).holds ⟨some '\r', some '\n'⟩ = false := by decide

end TextRules
