import TextRules.Text.Pattern.Machine
import TextRules.Text.Pattern.Meaning

namespace TextRules

/-!
# Looking characters up

A set of characters is a list of ranges.  To look a character up, the machine that looks for
patterns halves this list again and again, which finds the character only if the ranges are in
ascending order.  The table of characters that differ only by case is searched in the same way.
Both searches find what going through the whole list would find.

* `CharSet.contains_ofRanges`, `CharSet.tidy_ofRanges` — putting ranges in order keeps their
  members.
* `CaseFolding.mem_variantsBetween_iff` — what is found in the table.
* `CharSet.contains_foldCase` — what ignoring case adds to a set.
* `CharSet.Tidy.isWithin_iff` — what is found in a set that is in order.
* `Pattern.states_ofChar` — what is read for a character of a pattern.
-/

/-- Whether a number lies in one of some ranges. -/
def InSome (ranges : List (Nat × Nat)) (n : Nat) : Prop :=
  ∃ range ∈ ranges, range.1 ≤ n ∧ n ≤ range.2

section InSome

variable {ranges other : List (Nat × Nat)} {range : Nat × Nat} {n : Nat}

theorem inSome_cons :
    InSome (range :: ranges) n ↔ (range.1 ≤ n ∧ n ≤ range.2) ∨ InSome ranges n := by
  simp [InSome]

theorem inSome_append : InSome (ranges ++ other) n ↔ InSome ranges n ∨ InSome other n := by
  simp [InSome, or_and_right, exists_or]

theorem inSome_congr (h : ∀ range, range ∈ ranges ↔ range ∈ other) :
    InSome ranges n ↔ InSome other n := by
  simp [InSome, h]

end InSome

/-- Entries that are sorted by a number are in ascending order of it. -/
theorem pairwise_sorted {α : Type} (entries : List (Nat × α)) :
    (entries.mergeSort fun a b => a.1 ≤ b.1).Pairwise fun a b => a.1 ≤ b.1 := by
  have htrans : ∀ a b c : Nat × α, decide (a.1 ≤ b.1) = true → decide (b.1 ≤ c.1) = true →
      decide (a.1 ≤ c.1) = true := by
    intro a b c hab hbc
    rw [decide_eq_true_eq] at hab hbc ⊢
    exact Nat.le_trans hab hbc
  have htotal : ∀ a b : Nat × α, (decide (a.1 ≤ b.1) || decide (b.1 ≤ a.1)) = true := by
    intro a b
    rw [Bool.or_eq_true, decide_eq_true_eq, decide_eq_true_eq]
    exact Nat.le_total a.1 b.1
  have hsorted := List.pairwise_mergeSort htrans htotal entries
  exact hsorted.imp fun h => of_decide_eq_true h

namespace CharSet

theorem contains_iff_inSome {s : CharSet} {c : Char} :
    s.contains c = true ↔ InSome s.ranges c.toNat := contains_iff

/-- Ranges that are in ascending order, so that none of them touches the next one. -/
structure Tidy (s : CharSet) : Prop where
  le : ∀ range ∈ s.ranges, range.1 ≤ range.2
  apart : s.ranges.Pairwise fun first second => first.2 + 1 < second.1

theorem tidy_single (n : Nat) : (single n).Tidy :=
  ⟨by simp [single], List.pairwise_singleton _ _⟩

theorem inSome_single {m n : Nat} : InSome (single m).ranges n ↔ n = m := by
  simp [InSome, single, Nat.le_antisymm_iff, and_comm]

theorem contains_single {c d : Char} : (single c.toNat).contains d = true ↔ d = c := by
  rw [contains_iff_inSome, inSome_single, Char.toNat_inj]

/-! ### Putting ranges in order -/

variable {stack ranges : List (Nat × Nat)} {range : Nat × Nat} {n : Nat}

/-- A range that starts behind the last one is laid beside it or joined to it. -/
theorem inSome_addLast (hstart : ∀ below ∈ stack, below.1 ≤ range.1) :
    InSome (addLast stack range) n ↔ InSome stack n ∨ (range.1 ≤ n ∧ n ≤ range.2) := by
  cases stack with
  | nil => simp [addLast, InSome]
  | cons last before =>
    have hlast := hstart last List.mem_cons_self
    rw [addLast]
    split
    next htouch =>
      rw [inSome_cons, inSome_cons]
      have hjoin : last.1 ≤ n ∧ n ≤ max last.2 range.2 ↔
          (last.1 ≤ n ∧ n ≤ last.2) ∨ (range.1 ≤ n ∧ n ≤ range.2) := by omega
      rw [hjoin, or_right_comm]
    next => rw [inSome_cons, or_comm]

/-- Ranges in order, with the last one first. -/
structure Stacked (stack : List (Nat × Nat)) : Prop where
  le : ∀ range ∈ stack, range.1 ≤ range.2
  apart : stack.Pairwise fun second first => first.2 + 1 < second.1

theorem Stacked.addLast (h : Stacked stack) (hstart : ∀ below ∈ stack, below.1 ≤ range.1)
    (hle : range.1 ≤ range.2) : Stacked (addLast stack range) := by
  cases stack with
  | nil => exact ⟨by simpa [CharSet.addLast] using hle, List.pairwise_singleton _ _⟩
  | cons last before =>
    obtain ⟨hlast, hbefore⟩ := List.forall_mem_cons.mp h.le
    obtain ⟨hapart, hrest⟩ := List.pairwise_cons.mp h.apart
    rw [CharSet.addLast]
    split
    next =>
      refine ⟨List.forall_mem_cons.mpr ⟨?_, hbefore⟩, List.pairwise_cons.mpr ⟨hapart, hrest⟩⟩
      exact Nat.le_trans hlast (Nat.le_max_left _ _)
    next hgap =>
      refine ⟨List.forall_mem_cons.mpr ⟨hle, h.le⟩, List.pairwise_cons.mpr ⟨?_, h.apart⟩⟩
      rw [List.forall_mem_cons]
      have hstart := hstart last List.mem_cons_self
      exact ⟨by omega, fun below hbelow => Nat.lt_of_lt_of_le (hapart below hbelow) hstart⟩

/-- No range of a stack starts behind the one that was added last. -/
theorem le_of_mem_addLast (hstart : ∀ below ∈ stack, below.1 ≤ range.1) {added : Nat × Nat}
    (h : added ∈ addLast stack range) : added.1 ≤ range.1 := by
  cases stack with
  | nil =>
    obtain rfl := List.mem_singleton.mp h
    exact Nat.le_refl _
  | cons last before =>
    obtain ⟨hlast, hbefore⟩ := List.forall_mem_cons.mp hstart
    rw [addLast] at h
    split at h
    next =>
      obtain rfl | h := List.mem_cons.mp h
      · exact hlast
      · exact hbefore added h
    next =>
      obtain rfl | h := List.mem_cons.mp h
      · exact Nat.le_refl _
      · exact hstart added h

/-- Ranges that are added in the order of their beginnings keep their members, and come to be in
    order. -/
theorem foldl_addLast (hsorted : ranges.Pairwise fun a b => a.1 ≤ b.1)
    (hstart : ∀ below ∈ stack, ∀ range ∈ ranges, below.1 ≤ range.1) :
    (∀ n, InSome (ranges.foldl addLast stack) n ↔ InSome stack n ∨ InSome ranges n) ∧
      (Stacked stack → (∀ range ∈ ranges, range.1 ≤ range.2) →
        Stacked (ranges.foldl addLast stack)) := by
  -- every step leaves a stack in which nothing starts behind the ranges that are still to come
  induction ranges generalizing stack with
  | nil => simp [InSome]
  | cons range rest ih =>
    obtain ⟨hfirst, hrest⟩ := List.pairwise_cons.mp hsorted
    have hrange : ∀ below ∈ stack, below.1 ≤ range.1 := fun below hbelow =>
      hstart below hbelow range List.mem_cons_self
    have hstartRest : ∀ below ∈ addLast stack range, ∀ later ∈ rest, below.1 ≤ later.1 :=
      fun below hbelow later hlater =>
        Nat.le_trans (le_of_mem_addLast hrange hbelow) (hfirst later hlater)
    obtain ⟨hmembers, hstacked⟩ := ih hrest hstartRest
    constructor
    · intro n
      rw [List.foldl_cons, hmembers, inSome_addLast hrange, inSome_cons, or_assoc]
    · intro h hle
      obtain ⟨hrangeLe, hrestLe⟩ := List.forall_mem_cons.mp hle
      exact hstacked (h.addLast hrange hrangeLe) hrestLe

/-- **Putting ranges in order keeps their members.** -/
theorem contains_ofRanges (ranges : List (Nat × Nat)) (c : Char) :
    (ofRanges ranges).contains c = true ↔ InSome ranges c.toNat := by
  rw [contains_iff_inSome, ofRanges, inSome_congr fun range => List.mem_reverse,
    (foldl_addLast (pairwise_sorted ranges) (List.forall_mem_nil _)).1,
    inSome_congr fun range => List.mem_mergeSort]
  simp [InSome]

/-- **Ranges can be put in order.** -/
theorem tidy_ofRanges (h : ∀ range ∈ ranges, range.1 ≤ range.2) : (ofRanges ranges).Tidy := by
  have hempty : Stacked [] := ⟨List.forall_mem_nil _, List.Pairwise.nil⟩
  have hstacked := (foldl_addLast (pairwise_sorted ranges) (List.forall_mem_nil _)).2 hempty
    fun range hrange => h range (List.mem_mergeSort.mp hrange)
  exact ⟨fun range hrange => hstacked.le range (List.mem_reverse.mp hrange),
    List.pairwise_reverse.mpr hstacked.apart⟩

end CharSet

/-! ### Ignoring case -/

/-- The entries of a table between two bounds are those whose numbers are, if the bounds are told by
    the numbers in front of them. -/
theorem mem_extract_iff {α : Type} {table : Array (Nat × α)} {countBelow : Nat → Nat}
    (hcount : ∀ bound i (hi : i < table.size), i < countBelow bound ↔ table[i].1 < bound)
    {first last : Nat} {entry : Nat × α} :
    entry ∈ table.extract (countBelow first) (countBelow (last + 1)) ↔
      entry ∈ table ∧ first ≤ entry.1 ∧ entry.1 ≤ last := by
  constructor
  · intro hentry
    obtain ⟨k, hk, rfl⟩ := Array.mem_extract_iff_getElem.mp hentry
    have hsize : countBelow first + k < table.size := by omega
    have hfirst := hcount first _ hsize
    have hlast := hcount (last + 1) _ hsize
    exact ⟨Array.getElem_mem hsize, by omega, by omega⟩
  · rintro ⟨hentry, hfirst, hlast⟩
    obtain ⟨i, hi, rfl⟩ := Array.mem_iff_getElem.mp hentry
    have hlow := hcount first i hi
    have hhigh := hcount (last + 1) i hi
    refine Array.mem_extract_iff_getElem.mpr ⟨i - countBelow first, by omega, ?_⟩
    congr 1
    omega

namespace CaseFolding

/-- The table of characters that differ from others only by case is sorted, so the search ends
    behind the characters below its bound. -/
theorem lt_turningPoint_variants_iff (bound i : Nat) (hi : i < variants.size) :
    i < turningPoint (fun i => variants[i]?.any fun entry => entry.1 < bound) 0 variants.size ↔
      variants[i].1 < bound := by
  rw [lt_turningPoint_table_iff _ hi, decide_eq_true_eq]
  refine (pairwise_sorted _).imp fun hle hlt => ?_
  rw [decide_eq_true_eq] at hlt ⊢
  exact Nat.lt_of_le_of_lt hle hlt

/-- **What is found in the table** for a range is what it lists for the characters of the range. -/
theorem mem_variantsBetween_iff {first last n : Nat} :
    n ∈ variantsBetween first last ↔
      ∃ entry ∈ variants, (first ≤ entry.1 ∧ entry.1 ≤ last) ∧ n ∈ entry.2 := by
  simp only [variantsBetween, List.mem_flatMap, Array.mem_toList_iff,
    mem_extract_iff lt_turningPoint_variants_iff, and_assoc]

end CaseFolding

namespace CharSet

/-- The numbers that are added to a set when case is ignored. -/
theorem inSome_variants {s : CharSet} {n : Nat} :
    InSome (s.ranges.flatMap fun range =>
      (CaseFolding.variantsBetween range.1 range.2).map fun n => (n, n)) n ↔
      ∃ entry ∈ CaseFolding.variants, InSome s.ranges entry.1 ∧ n ∈ entry.2 := by
  constructor
  · rintro ⟨_, hadded, hn⟩
    obtain ⟨range, hrange, hadded⟩ := List.mem_flatMap.mp hadded
    obtain ⟨m, hm, rfl⟩ := List.mem_map.mp hadded
    obtain rfl : m = n := Nat.le_antisymm hn.1 hn.2
    obtain ⟨entry, hentry, hbetween, hm⟩ := CaseFolding.mem_variantsBetween_iff.mp hm
    exact ⟨entry, hentry, ⟨range, hrange, hbetween⟩, hm⟩
  · rintro ⟨entry, hentry, ⟨range, hrange, hbetween⟩, hn⟩
    have hm := CaseFolding.mem_variantsBetween_iff.mpr ⟨entry, hentry, hbetween, hn⟩
    exact ⟨(n, n), List.mem_flatMap.mpr ⟨range, hrange, List.mem_map.mpr ⟨n, hm, rfl⟩⟩,
      Nat.le_refl n, Nat.le_refl n⟩

/-- **What ignoring case adds to a set:** the characters that the table lists for one of its
    members, and no others. -/
theorem contains_foldCase (s : CharSet) (c : Char) :
    s.foldCase.contains c = true ↔ s.contains c = true ∨
      ∃ entry ∈ CaseFolding.variants, InSome s.ranges entry.1 ∧ c.toNat ∈ entry.2 := by
  rw [foldCase, contains_ofRanges, inSome_append, inSome_variants, contains_iff_inSome]

theorem Tidy.foldCase {s : CharSet} (h : s.Tidy) : s.foldCase.Tidy := by
  refine tidy_ofRanges fun range hrange => ?_
  obtain hrange | hrange := List.mem_append.mp hrange
  · exact h.le range hrange
  · obtain ⟨_, -, hrange⟩ := List.mem_flatMap.mp hrange
    obtain ⟨n, -, rfl⟩ := List.mem_map.mp hrange
    exact Nat.le_refl n

/-! ### Finding characters -/

/-- The search in a set that is in order ends behind the ranges that end below the number. -/
theorem Tidy.lt_turningPoint_iff {s : CharSet} (h : s.Tidy) {i : Nat} (hi : i < s.ranges.length) :
    i < turningPoint (fun i => s.ranges.toArray[i]?.any fun range => range.2 < n) 0
      s.ranges.length ↔ s.ranges[i].2 < n := by
  have hturn : s.ranges.toArray.toList.Pairwise fun a b =>
      decide (b.2 < n) = true → decide (a.2 < n) = true := by
    refine h.apart.imp_of_mem fun _ hsecond hapart hlt => ?_
    have hle := h.le _ hsecond
    rw [decide_eq_true_eq] at hlt ⊢
    omega
  rw [← decide_eq_true_eq (p := _ < n)]
  exact lt_turningPoint_table_iff hturn hi

/-- **What is found in a set that is in order** is what is in it. -/
theorem Tidy.isWithin_iff {s : CharSet} (h : s.Tidy) (n : Nat) :
    isWithin s.ranges.toArray n = true ↔ InSome s.ranges n := by
  have hcount := fun i (hi : i < s.ranges.length) => h.lt_turningPoint_iff (n := n) hi
  rw [isWithin, List.size_toArray]
  generalize turningPoint _ 0 s.ranges.length = place at hcount ⊢
  constructor
  · intro hfound
    by_cases hplace : place < s.ranges.length
    · have hnot := hcount place hplace
      have hle : s.ranges[place].1 ≤ n := by simpa [hplace] using hfound
      exact ⟨s.ranges[place], List.getElem_mem hplace, hle, by omega⟩
    · simp [hplace] at hfound
  · rintro ⟨range, hrange, hn⟩
    obtain ⟨i, hi, rfl⟩ := List.getElem_of_mem hrange
    have hnot := hcount i hi
    have hplace : place < s.ranges.length := by omega
    have hle : s.ranges[place].1 ≤ n := by
      obtain rfl | hlt := Nat.eq_or_lt_of_le (show place ≤ i by omega)
      · exact hn.1
      · -- a range in front of the one that holds the number does not start behind it
        have hapart := List.pairwise_iff_getElem.mp h.apart place i hplace hi hlt
        have hle := h.le _ (List.getElem_mem hplace)
        omega
    simpa [hplace] using hle

end CharSet

namespace Pattern

/-- One character of a set that has any is looked for in a single state, which reads the members of
    the set. -/
theorem states_ofSet {s : CharSet} (h : s.Tidy) {member : Char} (hmember : s.contains member = true)
    (bytes : Bool) :
    ∃ state, (ofSet bytes s).states = [state] ∧ ∀ c, state.reads c = s.contains c := by
  have hset : ∀ c, (State.set s.ranges.toArray).reads c = s.contains c := by
    intro c
    rw [Bool.eq_iff_iff, State.reads, h.isWithin_iff, CharSet.contains_iff_inSome]
  obtain ⟨ranges⟩ := s
  match ranges with
  | [] => exact ⟨_, rfl, hset⟩
  | [(first, last)] =>
    by_cases heq : first = last
    · -- a set of one character is the text of this character
      obtain rfl := heq
      obtain rfl : first = member.toNat := by
        simpa [CharSet.contains, Nat.le_antisymm_iff] using hmember
      refine ⟨.char member, by simp [ofSet, states], fun c => ?_⟩
      rw [Bool.eq_iff_iff, CharSet.contains_iff_inSome]
      simp [State.reads, InSome, ← Nat.le_antisymm_iff, Char.toNat_inj]
    · exact ⟨.set #[(first, last)], by simp [ofSet, states, heq], hset⟩
  | _ :: _ :: _ => exact ⟨_, rfl, hset⟩

/-- **What is read for a character of a pattern.** If case is ignored, the character is looked for
    in a single state.  It reads the character and those that differ from it only by case, and no
    others. -/
theorem states_ofChar {flags : List Flag} (hcase : flags.contains .ignoreCase = true)
    (hunicode : flags.contains .unicode = true) (c : Char) :
    ∃ state, (ofChar flags c).states = [state] ∧ ∀ d, state.reads d = true ↔
      d = c ∨ ∃ entry ∈ CaseFolding.variants, entry.1 = c.toNat ∧ d.toNat ∈ entry.2 := by
  have hmembers : ∀ d, (CharSet.single c.toNat).foldCase.contains d = true ↔
      d = c ∨ ∃ entry ∈ CaseFolding.variants, entry.1 = c.toNat ∧ d.toNat ∈ entry.2 := by
    intro d
    simp only [CharSet.contains_foldCase, CharSet.contains_single, CharSet.inSome_single]
  have hfold : foldCase flags (.single c.toNat) = (CharSet.single c.toNat).foldCase := by
    rw [foldCase, hcase, hunicode]
    rfl
  rw [ofChar, hfold]
  split
  next hsame =>
    refine ⟨.char c, rfl, fun d => ?_⟩
    rw [← hmembers, hsame, CharSet.contains_single, State.reads, beq_iff_eq, eq_comm]
  next =>
    have hmember := (hmembers c).mpr (.inl rfl)
    obtain ⟨state, hstate, hreads⟩ :=
      states_ofSet (CharSet.tidy_single _).foldCase hmember (!flags.contains .unicode)
    exact ⟨state, hstate, fun d => by rw [hreads, hmembers]⟩

end Pattern

end TextRules
