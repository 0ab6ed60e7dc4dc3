import TextRules.Text.Occurrences

namespace TextRules

/-!
# Counting by searching

Searching again and again, one character after the start of the last occurrence, finds a text at
every place where it stands: a search skips no such place, and none is found twice.  So the number
of successful searches is the number of places (`occurrences_eq_positions`).
-/

/-- The number of places of a text at which another one stands. -/
def positions (needle text : List Char) : Nat :=
  (List.range text.length).countP fun i => needle.isPrefixOf (text.drop i)

@[simp] theorem positions_nil (needle : List Char) : positions needle [] = 0 := rfl

theorem positions_cons (needle : List Char) (c : Char) (rest : List Char) :
    positions needle (c :: rest) =
      positions needle rest + if needle.isPrefixOf (c :: rest) then 1 else 0 := by
  rw [positions, List.length_cons, List.range_succ_eq_map, List.countP_cons, List.countP_map]
  rfl

theorem positions_le_length (needle text : List Char) : positions needle text ≤ text.length := by
  have hle := List.countP_le_length (l := List.range text.length)
    (p := fun i => needle.isPrefixOf (text.drop i))
  rwa [List.length_range] at hle

/-! ### One search -/

section Search

variable {needle text : List Char}

/-- A search that fails has met no place. -/
theorem positions_of_search?_eq_none (h : search? needle text = none) :
    positions needle text = 0 := by
  induction text with
  | nil => exact positions_nil needle
  | cons c rest ih =>
    rw [search?] at h
    split at h
    · cases h
    · next hc => rw [positions_cons, if_neg hc, ih h]

/-- A search that succeeds stops at the first place. -/
theorem positions_of_search?_eq_some (hne : needle ≠ []) {found : List Char}
    (h : search? needle text = some found) :
    ∃ c rest, found = c :: rest ∧ positions needle text = positions needle rest + 1 := by
  induction text with
  | nil => simp [search?, hne] at h
  | cons c rest ih =>
    rw [search?] at h
    split at h
    · next hc => exact ⟨c, rest, (Option.some.inj h).symm, by rw [positions_cons, if_pos hc]⟩
    · next hc =>
      obtain ⟨d, tail, hfound, hpositions⟩ := ih h
      exact ⟨d, tail, hfound, by rw [positions_cons, if_neg hc, hpositions]⟩

/-- Each search that succeeds stands for one place, and the searches after it for the others. -/
theorem countFrom_eq_positions (hne : needle ≠ []) :
    countFrom needle text = positions needle text := by
  fun_induction countFrom needle text with
  | case1 text c rest h ih =>
    -- the count goes on one character behind the start of the occurrence
    obtain ⟨d, tail, hfound, hpositions⟩ := positions_of_search?_eq_some hne h
    obtain ⟨rfl, rfl⟩ := List.cons.inj hfound
    rw [ih, hpositions]
  | case2 text h =>
    cases hsearch : search? needle text with
    | none => exact (positions_of_search?_eq_none hsearch).symm
    | some found =>
      obtain ⟨c, rest, rfl, -⟩ := positions_of_search?_eq_some hne hsearch
      exact absurd hsearch (h c rest)

end Search

/-- **Searching counts places.** A text that is not empty is counted once for every place where it
    stands, whether or not the occurrences overlap. -/
theorem occurrences_eq_positions {needle : String} (hne : needle ≠ "") (text : String) :
    occurrences needle text = positions needle.toList text.toList := by
  have hlist : needle.toList ≠ [] := by simpa using hne
  rw [occurrences, if_neg (by simpa using hne), countFrom_eq_positions hlist]

end TextRules
