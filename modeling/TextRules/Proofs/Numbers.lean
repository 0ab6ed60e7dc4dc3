import Mathlib.Algebra.GroupWithZero.Nat
import TextRules.Evaluation
import TextRules.Proofs.Arithmetic
import TextRules.Proofs.Pieces

namespace TextRules

/-!
# The numbers in a text

The numbers in a text are what its runs of digits stand for, whatever their size (`numbersIn`).  The
statistics of a text know them only through steps that stop at the largest value.  As no number is
negative, a total that is held back at every step is the same as one that is held back once, at the
end:

* `NumberScan.stats_foldl_step` — the scan, from any point on;
* `NumberStats.count_ofText`, `NumberStats.toInt_total_ofText` — the statistics of a text;
* `Subject.toInt_total_ofText`, `Subject.toInt_average_ofText` — what an operand can ask for.
-/

/-- The numbers in a text, from left to right: what its runs of digits stand for, each run as long
    as possible. -/
def numbersIn (text : String) : List Nat :=
  (pieces (fun c => !c.isDigit) text.toList).map decimalValue

example : numbersIn "abc 23eft fata4s2van" = [23, 4, 2] := by decide +kernel

/-! ### Reading on from inside a run -/

/-- The numbers in the rest of a text, of which the first may have been begun before it. -/
def numbersFrom (begun : Option Nat) : List Char → List Nat
  | [] => begun.toList
  | c :: rest =>
    if c.isDigit then numbersFrom (some (10 * begun.getD 0 + (c.toNat - '0'.toNat))) rest
    else begun.toList ++ numbersFrom none rest

/-- A number that was begun goes on with the first part of the rest, even if this is empty. -/
theorem numbersFrom_eq (text : List Char) :
    ∃ run runs, text.splitOnP (fun c => !c.isDigit) = run :: runs ∧
      (∀ n, numbersFrom (some n) text = Nat.ofDigitChars 10 run n ::
        (runs.filter fun run => !run.isEmpty).map decimalValue) ∧
      numbersFrom none text = ((run :: runs).filter fun run => !run.isEmpty).map decimalValue := by
  induction text with
  | nil => exact ⟨[], [], List.splitOnP_nil, fun n => rfl, rfl⟩
  | cons c rest ih =>
    obtain ⟨run, runs, hsplit, hbegun, hnone⟩ := ih
    rw [List.splitOnP_cons_eq_if_modifyHead, hsplit]
    -- a digit joins the first run of the rest, and any other character ends an empty one before it
    cases hc : c.isDigit with
    | true =>
      refine ⟨c :: run, runs, rfl, fun n => ?_, ?_⟩
      · rw [numbersFrom, if_pos hc, hbegun, Nat.ofDigitChars_cons]
        rfl
      · rw [numbersFrom, if_pos hc, hbegun]
        simp [decimalValue, Nat.ofDigitChars_cons]
    | false =>
      refine ⟨[], run :: runs, rfl, fun n => ?_, ?_⟩
      · rw [numbersFrom, if_neg (by simp [hc]), hnone]
        rfl
      · rw [numbersFrom, if_neg (by simp [hc]), hnone]
        rfl

theorem numbersFrom_none (text : String) : numbersFrom none text.toList = numbersIn text := by
  obtain ⟨run, runs, hsplit, -, hnone⟩ := numbersFrom_eq text.toList
  rw [hnone, numbersIn, pieces, hsplit]

/-! ### The scan -/

theorem toNat_digit_le {c : Char} (h : c.isDigit = true) : c.toNat - '0'.toNat ≤ 9 := by
  have hle : c.toNat ≤ 57 := by
    simp only [Char.isDigit, Bool.and_eq_true, decide_eq_true_eq] at h
    exact h.2
  have hzero : '0'.toNat = 48 := rfl
  omega

namespace NumberScan

/-- A scan is inside a number exactly if one was begun, and holds as much of it as is in range. -/
def Reads (s : NumberScan) (begun : Option Nat) : Prop :=
  s.current.map Int64.toInt = begun.map fun n : Nat => min Value.largest (n : Int)

/-- What a scan holds of a number grows by a digit as the number does, up to the largest value. -/
theorem Reads.digit {s : NumberScan} {begun : Option Nat} (h : s.Reads begun) {c : Char}
    (hc : c.isDigit = true) :
    (s.step c).found = s.found ∧
      (s.step c).Reads (some (10 * begun.getD 0 + (c.toNat - '0'.toNat))) := by
  have hcurrent : (s.current.getD 0).toInt = min Value.largest (begun.getD 0 : Int) := by
    rw [Reads] at h
    cases hs : s.current with
    | none =>
      cases begun with
      | none => rfl
      | some n => simp [hs] at h
    | some number =>
      cases begun with
      | none => simp [hs] at h
      | some n => simpa [hs] using h
  have hdigit := toNat_digit_le hc
  -- a number that is held back would be out of range with one more digit as well
  constructor
  · simp [step, hc]
  · simp only [Reads, step, hc, if_true, Option.map_some, Option.some.injEq,
      Value.toInt_addClamped, Value.toInt_mulClamped, Value.toInt_clamp, hcurrent]
    generalize c.toNat - '0'.toNat = digit at *
    have hten : Int64.toInt 10 = 10 := rfl
    rw [hten]
    simp only [Value.smallest, Value.largest]
    omega

/-- At a character that is no digit, the number that was being read is found. -/
theorem step_of_not_isDigit (s : NumberScan) {c : Char} (hc : c.isDigit = false) :
    s.step c = ⟨s.stats, none⟩ := by
  obtain ⟨found, current⟩ := s
  cases current <;> simp [step, stats, hc]

/-- What has been found and what is being read make the statistics. -/
theorem Reads.stats {s : NumberScan} {begun : Option Nat} (h : s.Reads begun)
    (hfound : 0 ≤ s.found.total.toInt) :
    s.stats.count = s.found.count + begun.toList.length ∧
      s.stats.total.toInt = min Value.largest (s.found.total.toInt + (begun.toList.sum : Nat)) := by
  have hle := Value.toInt_le_largest s.found.total
  unfold Reads at h
  cases hs : s.current with
  | none =>
    cases begun with
    | none => simpa [NumberScan.stats, hs] using (Int.min_eq_right hle).symm
    | some n => simp [hs] at h
  | some number =>
    cases begun with
    | none => simp [hs] at h
    | some n =>
      have hnumber : number.toInt = min Value.largest (n : Int) := by simpa [hs] using h
      simp only [NumberScan.stats, hs, NumberStats.add, Value.toInt_addClamped, hnumber]
      constructor
      · rfl
      · simp only [Option.toList_some, List.sum_singleton]
        simp only [Value.smallest, Value.largest] at *
        omega

/-- **The scan is exact up to one clamp.** However far the numbers go beyond the range, they are all
    counted, and their total is the exact one held back at the largest value. -/
theorem stats_foldl_step (text : List Char) (s : NumberScan) (begun : Option Nat)
    (h : s.Reads begun) (hfound : 0 ≤ s.found.total.toInt) :
    (text.foldl step s).stats.count = s.found.count + (numbersFrom begun text).length ∧
      (text.foldl step s).stats.total.toInt =
        min Value.largest (s.found.total.toInt + ((numbersFrom begun text).sum : Nat)) := by
  -- the invariant is that the scan reads what was begun and has found nothing negative
  induction text generalizing s begun with
  | nil => exact h.stats hfound
  | cons c rest ih =>
    rw [List.foldl_cons, numbersFrom]
    cases hc : c.isDigit with
    | true =>
      obtain ⟨hsame, hreads⟩ := h.digit hc
      rw [if_pos rfl, ← hsame]
      exact ih _ _ hreads (by rw [hsame]; exact hfound)
    | false =>
      obtain ⟨hcount, htotal⟩ := h.stats hfound
      have hnext : 0 ≤ s.stats.total.toInt := by
        rw [htotal]
        simp only [Value.largest]
        omega
      obtain ⟨ihcount, ihtotal⟩ := ih ⟨s.stats, none⟩ none rfl hnext
      rw [step_of_not_isDigit s hc, if_neg (by simp), List.length_append, List.sum_append]
      constructor
      · rw [ihcount, hcount, Nat.add_assoc]
      · rw [ihtotal, htotal]
        simp only [Value.largest]
        omega

end NumberScan

/-! ### The statistics of a text -/

namespace NumberStats

theorem count_ofText (text : String) : (ofText text).count = (numbersIn text).length := by
  have h := (NumberScan.stats_foldl_step text.toList .start .none rfl (Int.le_refl 0)).1
  rw [numbersFrom_none] at h
  exact h.trans (Nat.zero_add _)

theorem toInt_total_ofText (text : String) :
    (ofText text).total.toInt = (min Value.limit (numbersIn text).sum : Nat) := by
  have h := (NumberScan.stats_foldl_step text.toList .start .none rfl (Int.le_refl 0)).2
  rw [numbersFrom_none] at h
  have hstart : NumberScan.start.found.total.toInt = 0 := rfl
  rw [hstart, Value.largest_eq] at h
  rw [ofText, h]
  omega

/-- The average is the total held back at the largest value, divided and rounded down. -/
theorem toInt_average?_ofText {text : String} {average : Value}
    (h : (ofText text).average? = some average) :
    average.toInt = (min Value.limit (numbersIn text).sum / (numbersIn text).length : Nat) := by
  rw [average?, Option.ite_none_left_eq_some] at h
  obtain ⟨-, h⟩ := h
  obtain rfl := Option.some.inj h
  rw [toInt_total_ofText, count_ofText, Value.toInt_clamp, ← Int.ofNat_tdiv]
  have hle : min Value.limit (numbersIn text).sum / (numbersIn text).length ≤ Value.limit :=
    Nat.le_trans (Nat.div_le_self _ _) (Nat.min_le_left _ _)
  generalize min Value.limit (numbersIn text).sum / (numbersIn text).length = quotient at hle ⊢
  simp only [Value.smallest, Value.largest, Value.limit] at hle ⊢
  omega

end NumberStats

/-! ### What an operand can ask for -/

namespace Subject

variable {policy : EmptyPolicy} {text : String}

theorem text_ofText : (ofText policy text).text = text := by
  simp only [ofText]
  split <;> rfl

theorem numbersIn_eq_nil (h : (NumberStats.ofText text).average? = none) : numbersIn text = [] := by
  rw [NumberStats.average?] at h
  rw [← List.length_eq_zero_iff, ← NumberStats.count_ofText]
  simpa using h

theorem toInt_total_ofText {total : Value} (h : (ofText policy text).total = some total) :
    total.toInt = (min Value.limit (numbersIn text).sum : Nat) := by
  simp only [ofText] at h
  split at h
  next => rw [← Option.some.inj h, NumberStats.toInt_total_ofText]
  next haverage =>
    rw [← Option.some.inj h, numbersIn_eq_nil haverage]
    rfl
  next => cases h

theorem toInt_average_ofText {average : Value} (h : (ofText policy text).average = some average) :
    average.toInt = (min Value.limit (numbersIn text).sum / (numbersIn text).length : Nat) := by
  simp only [ofText] at h
  split at h
  next haverage => exact NumberStats.toInt_average?_ofText (haverage.trans h)
  next haverage =>
    rw [← Option.some.inj h, numbersIn_eq_nil haverage]
    rfl
  next => cases h

end Subject

end TextRules
