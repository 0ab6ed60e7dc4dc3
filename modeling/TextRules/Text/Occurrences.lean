namespace TextRules

/-!
# Occurrences of a text in another

The occurrences are found one after the other.  Each search goes on one character after the start
of the last occurrence, so that occurrences may overlap.
-/

/-- The rest of `text` from the first place where `needle` occurs. -/
def search? (needle : List Char) : List Char → Option (List Char)
  | [] => if needle.isEmpty then some [] else none
  | c :: rest => if needle.isPrefixOf (c :: rest) then some (c :: rest) else search? needle rest

theorem length_le_of_search? {needle text found : List Char}
    (h : search? needle text = some found) : found.length ≤ text.length := by
  induction text with
  | nil =>
    simp only [search?] at h
    split at h <;> simp_all
  | cons c rest ih =>
    simp only [search?] at h
    split at h
    · simp_all
    · exact Nat.le_succ_of_le (ih h)

/-- The number of times a search for `needle` succeeds. -/
def countFrom (needle text : List Char) : Nat :=
  match h : search? needle text with
  | some (_ :: rest) => countFrom needle rest + 1
  | _ => 0
termination_by text.length
decreasing_by exact length_le_of_search? h

/-- The number of places in `text` where `needle` occurs, overlaps included.  The empty text is
    taken to occur nowhere. -/
def occurrences (needle text : String) : Nat :=
  if needle.isEmpty then 0 else countFrom needle.toList text.toList

example : countFrom "aa".toList "aaaaa aa aaa".toList = 7 := by decide +kernel

end TextRules
