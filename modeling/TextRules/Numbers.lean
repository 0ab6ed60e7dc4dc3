import TextRules.Value

namespace TextRules

/-!
# Numbers in a text

A number is a run of ASCII digits as long as possible, so `a12b3` holds 12 and 3.  One pass over a
text finds the sum of its numbers and how many there are.  The sum, and each number, is held inside
the range of values.
-/

/-- The sum of the numbers in a text, and how many there are. -/
structure NumberStats where
  total : Value
  count : Nat
  deriving DecidableEq

namespace NumberStats

/-- The statistics of no numbers. -/
def none : NumberStats := ⟨0, 0⟩

/-- The statistics with one more number. -/
def add (s : NumberStats) (number : Value) : NumberStats :=
  ⟨s.total.addClamped number, s.count + 1⟩

/-- The average of the numbers, if there are any.  The division cuts the fraction off.  The numbers
    of a text are not negative, so this rounds down. -/
def average? (s : NumberStats) : Option Value :=
  if s.count = 0 then .none else some (Value.clamp (s.total.toInt.tdiv s.count))

end NumberStats

/-- A pass over a text: the numbers that have ended, and the number that is being read. -/
structure NumberScan where
  found : NumberStats
  current : Option Value
  deriving DecidableEq

namespace NumberScan

/-- Nothing has been read. -/
def start : NumberScan := ⟨.none, none⟩

/-- Goes on by one character. -/
def step (s : NumberScan) (c : Char) : NumberScan :=
  if c.isDigit then
    let digit := Value.clamp (c.toNat - '0'.toNat : Nat)
    { s with current := some (((s.current.getD 0).mulClamped 10).addClamped digit) }
  else
    match s.current with
    | some number => ⟨s.found.add number, none⟩
    | none => s

/-- The statistics if the text ends here. -/
def stats (s : NumberScan) : NumberStats :=
  match s.current with
  | some number => s.found.add number
  | none => s.found

end NumberScan

/-- The statistics of the numbers in a text. -/
def NumberStats.ofText (text : String) : NumberStats :=
  (text.toList.foldl NumberScan.step NumberScan.start).stats

example : NumberStats.ofText "a12b3" = ⟨15, 2⟩ := by decide +kernel

example : NumberStats.ofText "9223372036854775807 1" = ⟨Int64.maxValue, 2⟩ := by decide +kernel

end TextRules
