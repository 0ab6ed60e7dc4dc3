namespace TextRules

/-!
# Search by bisection

A test on numbers that holds up to some number and fails from there on is located by halving the
interval in which it may turn.
-/

/-- The number from `low` on, at most `high`, where a test turns from true to false. -/
def turningPoint (test : Nat → Bool) (low high : Nat) : Nat :=
  if low < high then
    let middle := (low + high) / 2
    if test middle then turningPoint test (middle + 1) high else turningPoint test low middle
  else low
termination_by high - low

theorem le_turningPoint (test : Nat → Bool) (low high : Nat) :
    low ≤ turningPoint test low high := by
  fun_induction turningPoint test low high with
  | case1 low high _ middle _ ih => omega
  | case2 low high _ middle _ ih => exact ih
  | case3 low high _ => exact Nat.le_refl low

theorem turningPoint_le (test : Nat → Bool) {low high : Nat} (h : low ≤ high) :
    turningPoint test low high ≤ high := by
  fun_induction turningPoint test low high with
  | case1 low high _ middle _ ih => exact ih (by omega)
  | case2 low high _ middle _ ih => exact Nat.le_trans (ih (by omega)) (by omega)
  | case3 low high _ => exact h

/-- Up to the turning point a test holds, and from there on it fails, if it does not come back to
    hold after it has failed. -/
theorem lt_turningPoint_iff {test : Nat → Bool}
    (hturn : ∀ i j, i ≤ j → test j = true → test i = true) {low high i : Nat} (hlow : low ≤ i)
    (hhigh : i < high) : i < turningPoint test low high ↔ test i = true := by
  fun_induction turningPoint test low high with
  | case1 low high _ middle hmiddle ih =>
    by_cases hi : i ≤ middle
    · have hle := le_turningPoint test (middle + 1) high
      exact iff_of_true (by omega) (hturn i middle hi hmiddle)
    · exact ih (by omega) hhigh
  | case2 low high _ middle hmiddle ih =>
    by_cases hi : i < middle
    · exact ih hlow hi
    · have hle : turningPoint test low middle ≤ middle := turningPoint_le test (by omega)
      exact iff_of_false (by omega) fun htest => hmiddle (hturn middle i (by omega) htest)
  | case3 low high _ => omega

example : turningPoint (· < 7) 0 100 = 7 := by cbv

/-- In a table, the entries that pass a test are those up to the turning point, if no entry passes
    behind one that does not. -/
theorem lt_turningPoint_table_iff {α : Type} {p : α → Bool} {table : Array α}
    (hturn : table.toList.Pairwise fun a b => p b = true → p a = true) {i : Nat}
    (hi : i < table.size) :
    i < turningPoint (fun i => table[i]?.any p) 0 table.size ↔ p table[i] = true := by
  have hback : ∀ i j : Nat, i ≤ j → table[j]?.any p = true → table[i]?.any p = true := by
    intro i j hij hpass
    by_cases hj : j < table.size
    · rw [Array.getElem?_eq_getElem hj, Option.any_some] at hpass
      rw [Array.getElem?_eq_getElem (Nat.lt_of_le_of_lt hij hj), Option.any_some]
      obtain rfl | hlt := Nat.eq_or_lt_of_le hij
      · exact hpass
      · exact List.pairwise_iff_getElem.mp hturn i j _ hj hlt hpass
    · rw [Array.getElem?_eq_none (Nat.le_of_not_lt hj)] at hpass
      cases hpass
  rw [lt_turningPoint_iff hback (Nat.zero_le i) hi, Array.getElem?_eq_getElem hi, Option.any_some]

end TextRules
