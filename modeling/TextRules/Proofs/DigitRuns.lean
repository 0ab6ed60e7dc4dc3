import Mathlib.Data.List.TakeWhile
import TextRules.Proofs.Numbers

namespace TextRules

/-!
# Runs of digits

The statistics of a text speak of its runs of digits.  Here a run is told by its place alone
(`IsRun`): a part of the text that is not empty, has nothing but digits, and has no digit next to it
on either side.  The statistics never see a run as a whole.  They are found in one pass, which holds
back the number it reads and the sum of the numbers at the largest value.

* `mem_runs_iff` — `runs` lists exactly the runs of a list.  They are in order, each once
  (`runs_pairwise`), and they are the pieces between the other members (`pieces_eq_runs`).
* `NumberScan.foldl_stepByte` — a pass over the bytes of a text is a pass over its characters.  Of
  all bytes only those of ASCII digits are read as digits, so no run is cut in two or joined to
  another one inside a character.
* `NumberStats.ofText_sums_digitRuns` — what the statistics of a text are.
-/

/-! ### Runs of a list -/

section Runs

variable {α : Type} {p : α → Bool} {xs : List α} {place : Nat} {run : List α} {x : α}

/-- A run at a place of a list: a part that is not empty, all of whose members pass a test, and that
    no member that passes stands next to. -/
structure IsRun (p : α → Bool) (xs : List α) (place : Nat) (run : List α) : Prop where
  ne_nil : run ≠ []
  isPrefix : run <+: xs.drop place
  passes : ∀ x ∈ run, p x = true
  before : ∀ i, i + 1 = place → ∀ x, xs[i]? = some x → p x = false
  after : ∀ x, xs[place + run.length]? = some x → p x = false

/-- Whether a run starts at a place: a member that passes stands there, and none right before it. -/
def startsRun (p : α → Bool) (xs : List α) (place : Nat) : Bool :=
  xs[place]?.any p && (place == 0 || !xs[place - 1]?.any p)

/-- The runs of a list, from left to right, each with its place. -/
def runs (p : α → Bool) (xs : List α) : List (Nat × List α) :=
  ((List.range xs.length).filter (startsRun p xs)).map fun place =>
    (place, (xs.drop place).takeWhile p)

/-- Members that pass are followed by one that does not, or by nothing. -/
theorem not_of_getElem?_length_takeWhile (h : xs[(xs.takeWhile p).length]? = some x) :
    p x = false := by
  induction xs with
  | nil => simp at h
  | cons y rest ih =>
    by_cases hy : p y = true
    · rw [List.takeWhile_cons_of_pos hy, List.length_cons, List.getElem?_cons_succ] at h
      exact ih h
    · rw [List.takeWhile_cons_of_neg hy, List.length_nil, List.getElem?_cons_zero] at h
      simpa [← Option.some.inj h] using hy

/-- A run goes as far as the members from its place on pass. -/
theorem IsRun.eq_takeWhile (h : IsRun p xs place run) : run = (xs.drop place).takeWhile p := by
  obtain ⟨rest, hrest⟩ := h.isPrefix
  have hstop : rest.takeWhile p = [] := by
    cases rest with
    | nil => rfl
    | cons x rest =>
      have hx : xs[place + run.length]? = some x := by
        rw [← List.getElem?_drop, ← hrest, List.getElem?_append_right (Nat.le_refl _)]
        simp
      rw [List.takeWhile_cons_of_neg (by simp [h.after x hx])]
  rw [← hrest, List.takeWhile_append_of_pos h.passes, hstop, List.append_nil]

/-- A run starts where a member passes and the one before it does not. -/
theorem startsRun_iff : startsRun p xs place = true ↔
    (∃ x, xs[place]? = some x ∧ p x = true) ∧
      ∀ i, i + 1 = place → ∀ x, xs[i]? = some x → p x = false := by
  have hbefore : (place == 0 || !xs[place - 1]?.any p) = true ↔
      ∀ i, i + 1 = place → ∀ x, xs[i]? = some x → p x = false := by
    cases place with
    | zero => simp
    | succ i => cases h : xs[i]? <;> simp [h]
  rw [startsRun, Bool.and_eq_true, hbefore, Option.any_eq_true]

/-- **The runs are listed**, and nothing else is. -/
theorem mem_runs_iff : (place, run) ∈ runs p xs ↔ IsRun p xs place run := by
  simp only [runs, List.mem_map, List.mem_filter, List.mem_range, Prod.mk.injEq, startsRun_iff]
  constructor
  · rintro ⟨start, ⟨-, ⟨x, hx, hp⟩, hbefore⟩, rfl, rfl⟩
    have hhead : (xs.drop start).head? = some x := by rw [List.head?_drop, hx]
    obtain ⟨rest, hrest⟩ := List.head?_eq_some_iff.mp hhead
    refine ⟨?_, List.takeWhile_prefix p, fun y hy => List.mem_takeWhile_imp hy, hbefore, ?_⟩
    · rw [hrest, List.takeWhile_cons_of_pos hp]
      exact List.cons_ne_nil _ _
    · intro y hy
      rw [← List.getElem?_drop] at hy
      exact not_of_getElem?_length_takeWhile hy
  · intro h
    obtain ⟨x, others, hrun⟩ := List.exists_cons_of_ne_nil h.ne_nil
    obtain ⟨rest, hrest⟩ := h.isPrefix
    have hx : xs[place]? = some x := by rw [← List.head?_drop, ← hrest, hrun]; rfl
    have hlt : place < xs.length := (List.getElem?_eq_some_iff.mp hx).1
    have hp : p x = true := h.passes x (hrun ▸ List.mem_cons_self)
    exact ⟨place, ⟨hlt, ⟨x, hx, hp⟩, h.before⟩, rfl, h.eq_takeWhile.symm⟩

/-- Each run is listed in front of those that stand farther behind. -/
theorem runs_pairwise (p : α → Bool) (xs : List α) : (runs p xs).Pairwise (·.1 < ·.1) := by
  rw [runs, List.pairwise_map]
  exact List.pairwise_lt_range.filter _

/-! #### Runs and pieces -/

/-- The runs that start behind a member.  One that passes has begun the first of the list's own
    runs, if the list starts with one. -/
def runsBehind (p : α → Bool) (x : α) (xs : List α) : List (List α) :=
  ((List.range xs.length).filter fun place => startsRun p (x :: xs) (place + 1)).map fun place =>
    (xs.drop place).takeWhile p

/-- A run starts at the first member if it passes and the one before it does not. -/
theorem runsBehind_cons (p : α → Bool) (x y : α) (ys : List α) :
    runsBehind p x (y :: ys) =
      (if p y = true ∧ p x = false then [(y :: ys).takeWhile p] else []) ++
        runsBehind p y ys := by
  have hfirst : startsRun p (x :: y :: ys) (0 + 1) = true ↔ p y = true ∧ p x = false := by
    simp [startsRun]
  -- farther on, nothing depends on the member before the list
  have hlater : (fun place => startsRun p (x :: y :: ys) (place + 1)) ∘ Nat.succ =
      fun place => startsRun p (y :: ys) (place + 1) := by
    funext place
    simp [startsRun]
  rw [runsBehind, List.length_cons, List.range_succ_eq_map, List.filter_cons, List.filter_map,
    hlater]
  by_cases h : p y = true ∧ p x = false
  · rw [if_pos h, if_pos (hfirst.mpr h), List.map_cons, List.map_map]
    rfl
  · rw [if_neg h, if_neg (mt hfirst.mp h), List.map_map]
    rfl

/-- Behind a member that does not pass, no run has been begun. -/
theorem map_runs_eq_runsBehind (hx : p x = false) (xs : List α) :
    (runs p xs).map Prod.snd = runsBehind p x xs := by
  have hstarts : (fun place => startsRun p (x :: xs) (place + 1)) = startsRun p xs := by
    funext place
    cases place <;> simp [startsRun, hx]
  rw [runs, runsBehind, hstarts, List.map_map]
  rfl

/-- Behind a member that passes the first piece is the rest of its run, and behind any other every
    piece is a run. -/
theorem pieces_eq_runsBehind (xs : List α) (x : α) :
    (p x = true → ∃ others, xs.splitOnP (fun y => !p y) = xs.takeWhile p :: others ∧
      (others.filter fun piece => !piece.isEmpty) = runsBehind p x xs) ∧
    (p x = false → pieces (fun y => !p y) xs = runsBehind p x xs) := by
  induction xs generalizing x with
  | nil => exact ⟨fun _ => ⟨[], List.splitOnP_nil, rfl⟩, fun _ => pieces_nil⟩
  | cons y ys ih =>
    obtain ⟨hbegun, hfree⟩ := ih y
    rw [runsBehind_cons, pieces, List.splitOnP_cons_eq_if_modifyHead]
    by_cases hy : p y = true
    · -- the member joins the first piece, which is a run of its own unless one was begun
      obtain ⟨others, hsplit, hothers⟩ := hbegun hy
      constructor <;> intro hx <;> simp [hx, hy, hsplit, hothers]
    · -- the member ends what was begun, and an empty piece is no run
      have hy : p y = false := by simpa using hy
      rw [pieces] at hfree
      simp [hy, hfree hy]

/-- **Runs are pieces.** Where some member does not pass, the runs of a list are its pieces between
    such members. -/
theorem pieces_eq_runs (hx : p x = false) (xs : List α) :
    pieces (fun y => !p y) xs = (runs p xs).map Prod.snd := by
  rw [map_runs_eq_runsBehind hx]
  exact (pieces_eq_runsBehind xs x).2 hx

end Runs

/-! ### Runs of digits and the numbers in a text -/

/-- The runs of ASCII digits in a text, from left to right, each with the place where it starts. -/
def digitRuns (text : String) : List (Nat × List Char) := runs Char.isDigit text.toList

/-- The numbers in a text are what its runs of digits stand for. -/
theorem map_decimalValue_digitRuns (text : String) :
    (digitRuns text).map (fun run => decimalValue run.2) = numbersIn text := by
  have hblank : Char.isDigit ' ' = false := by decide
  rw [numbersIn, pieces_eq_runs hblank, List.map_map]
  rfl

example : digitRuns "a007é12" = [(1, ['0', '0', '7']), (5, ['1', '2'])] := by decide +kernel

/-! ### The pass over the bytes -/

/-- The bytes of a text in UTF-8. -/
def utf8Bytes (text : String) : List UInt8 := text.toUTF8.data.toList

theorem utf8Bytes_eq (text : String) :
    utf8Bytes text = text.toList.flatMap String.utf8EncodeChar := by
  rw [utf8Bytes, String.toUTF8, ← String.utf8Encode_toList, List.utf8Encode, List.data_toByteArray]

/-- A character of ASCII is one byte, and every byte of another character is above ASCII. -/
theorem utf8EncodeChar_cases (c : Char) :
    c.toNat < 128 ∧ String.utf8EncodeChar c = [UInt8.ofNat c.toNat] ∨
      128 ≤ c.toNat ∧ String.utf8EncodeChar c ≠ [] ∧
        ∀ b ∈ String.utf8EncodeChar c, 128 ≤ b.toNat := by
  have hval : c.val.toNat = c.toNat := rfl
  unfold String.utf8EncodeChar
  simp only [hval]
  by_cases hone : c.toNat ≤ 127
  · exact .inl ⟨by omega, by rw [if_pos hone]⟩
  · refine .inr ⟨by omega, ?_⟩
    rw [if_neg hone]
    -- each byte is a mark of 128 or more, and a few bits of the character below it
    split <;> [skip; split] <;>
      simp only [ne_eq, reduceCtorEq, not_false_eq_true, true_and, List.mem_cons, List.not_mem_nil,
        or_false, forall_eq_or_imp, forall_eq, UInt8.toNat_ofNat'] <;>
      omega

namespace NumberScan

/-- Goes on by one byte of a text: a byte counts as the character with its number, so it is read as
    a digit exactly if it is one of ASCII. -/
def stepByte (s : NumberScan) (b : UInt8) : NumberScan := s.step (Char.ofNat b.toNat)

/-- A byte above ASCII is no digit. -/
theorem stepByte_of_le (s : NumberScan) {b : UInt8} (hb : 128 ≤ b.toNat) :
    s.stepByte b = ⟨s.stats, none⟩ := by
  have hlt := b.toNat_lt
  have hvalid : b.toNat.isValidChar := .inl (by omega)
  have hdigit : (Char.ofNat b.toNat).isDigit = false := by
    have htoNat : (Char.ofNat b.toNat).toNat = b.toNat := by
      rw [Char.ofNat, dif_pos hvalid]
      rfl
    have hnine : '9'.toNat = 57 := rfl
    rw [Bool.eq_false_iff, ne_eq, Char.isDigit_iff_toNat]
    omega
  exact step_of_not_isDigit s hdigit

/-- Once a number has ended, bytes above ASCII change nothing. -/
theorem foldl_stepByte_of_le (found : NumberStats) {bytes : List UInt8}
    (h : ∀ b ∈ bytes, 128 ≤ b.toNat) :
    bytes.foldl stepByte ⟨found, none⟩ = ⟨found, none⟩ := by
  induction bytes with
  | nil => rfl
  | cons b rest ih =>
    rw [List.forall_mem_cons] at h
    rw [List.foldl_cons, stepByte_of_le _ h.1]
    exact ih h.2

/-- The bytes of a character are read as the character is. -/
theorem foldl_stepByte_utf8EncodeChar (s : NumberScan) (c : Char) :
    (String.utf8EncodeChar c).foldl stepByte s = s.step c := by
  rcases utf8EncodeChar_cases c with ⟨hlt, hone⟩ | ⟨hle, hne, hbytes⟩
  · have hbyte : (UInt8.ofNat c.toNat).toNat = c.toNat := by
      rw [UInt8.toNat_ofNat']
      omega
    rw [hone, List.foldl_cons, List.foldl_nil, stepByte, hbyte, Char.ofNat_toNat]
  · have hdigit : c.isDigit = false := by
      rw [Bool.eq_false_iff, ne_eq, Char.isDigit_iff_toNat]
      have hnine : '9'.toNat = 57 := rfl
      omega
    -- the first byte ends the number that was being read, and the others find none
    obtain ⟨b, rest, hsplit⟩ := List.exists_cons_of_ne_nil hne
    rw [hsplit, List.forall_mem_cons] at hbytes
    rw [hsplit, List.foldl_cons, stepByte_of_le s hbytes.1, foldl_stepByte_of_le _ hbytes.2,
      step_of_not_isDigit s hdigit]

/-- **A pass over the bytes is a pass over the characters.** -/
theorem foldl_stepByte (s : NumberScan) (text : String) :
    (utf8Bytes text).foldl stepByte s = text.toList.foldl step s := by
  rw [utf8Bytes_eq, List.foldl_flatMap]
  simp only [foldl_stepByte_utf8EncodeChar]

end NumberScan

/-! ### The statistics of a text -/

/-- **The statistics of a text are those of its runs of digits.** Take the runs of digits in a text,
    each once.  The statistics count them all, and their total is the sum of the numbers that the
    runs stand for, held back at the largest value.  This is so however long the runs are, and
    wherever on the way the largest value was met.  A pass over the bytes of the text finds the
    same. -/
theorem NumberStats.ofText_sums_digitRuns (text : String) :
    (∀ place run, (place, run) ∈ digitRuns text ↔ IsRun Char.isDigit text.toList place run) ∧
    (digitRuns text).Pairwise (·.1 < ·.1) ∧
    (ofText text).count = (digitRuns text).length ∧
    (ofText text).total.toInt =
      (min Value.limit ((digitRuns text).map fun run => decimalValue run.2).sum : Nat) ∧
    ((utf8Bytes text).foldl NumberScan.stepByte .start).stats = ofText text := by
  refine ⟨fun _ _ => mem_runs_iff, runs_pairwise _ _, ?_, ?_, ?_⟩
  · rw [count_ofText, ← map_decimalValue_digitRuns, List.length_map]
  · rw [map_decimalValue_digitRuns, toInt_total_ofText]
  · rw [NumberScan.foldl_stepByte]
    rfl

end TextRules
