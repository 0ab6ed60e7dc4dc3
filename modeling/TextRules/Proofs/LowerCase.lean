import TextRules.Operand.Reader

namespace TextRules

/-!
# Lower case is final

Lower-casing goes by a table of runs.  That what it gives is in lower case already is read off the
table: no image of a run is a character of a run (`CaseRun.apart_of_mem`).  From this one check, and
a few bounds of the runs, follows what a reader of rules has to know:

* `lowerChar_of_mem_lowerCase` — a character that comes out of lower-casing stays as it is;
* `lowerCase_eq_self_iff` — a text is in lower case if each of its characters is, although a
  capital sigma looks at its surroundings;
* `mem_or_le_of_mem_lowerCase` — signs and digits come from nowhere: a character in front of the
  small letters was in the text before;
* `lowerChar_of_isBlank`, `lowerChar_of_isQuote`, `lowerChar_of_toLower` — what happens to the
  characters that may be strewn in, and to capital letters of ASCII;
* `Lowers.of_append` — the parts of a text are lower-cased each by itself, but for the form that a
  sigma gets.
-/

/-! ### The table of runs -/

namespace CaseRun

/-- The last code point that a run maps to. -/
def imageLast (r : CaseRun) : Nat := r.image + (r.last - r.first)

/-- Whether no image of one run is a character of the other, as far as their bounds tell: the
    images lie in front of it or behind it, or beside its characters, which are every other one. -/
def apart (r s : CaseRun) : Bool :=
  r.imageLast.blt s.first || s.last.blt r.image ||
    (s.stride == 2 && (r.stride == 2 || r.first == r.last) && (r.image + s.first) % 2 == 1)

variable {r s : CaseRun} {n : Nat}

theorem covers_iff : r.covers n = true ↔
    r.first ≤ n ∧ n ≤ r.last ∧ (n - r.first) % r.stride = 0 := by
  simp [covers, and_assoc]

/-- The image of a character of a run is no character of a run that is apart from it. -/
theorem covers_image (h : r.apart s = true) (hn : r.covers n = true) :
    s.covers (r.image + (n - r.first)) = false := by
  obtain ⟨hfirst, hlast, hmod⟩ := covers_iff.mp hn
  rw [Bool.eq_false_iff, ne_eq, covers_iff]
  rintro ⟨hlow, hhigh, hsmod⟩
  simp only [apart, imageLast, Bool.or_eq_true, Bool.and_eq_true, Nat.blt_eq, beq_iff_eq] at h
  rcases h with (h | h) | ⟨⟨hs, hr⟩, hodd⟩
  · omega
  · omega
  · -- both the image and the characters of `s` have one parity, and not the same
    rw [hs] at hsmod
    rcases hr with hr | hr
    · rw [hr] at hmod
      omega
    · omega

/-- **No image is a character of a run.** -/
theorem apart_of_mem (hr : r ∈ lowerRuns) (hs : s ∈ lowerRuns) : r.apart s = true := by
  have htable : (lowerRuns.all fun r => lowerRuns.all fun s => r.apart s) = true := by
    decide +kernel
  simp only [List.all_eq_true] at htable
  exact htable r hr s hs

/-- Images are letters behind `a`, they are characters, and none is the dotted capital I. -/
theorem bounds_of_mem (hr : r ∈ lowerRuns) : 0x61 ≤ r.image ∧
    (r.imageLast < 0xD800 ∨ 0xDFFF < r.image ∧ r.imageLast < 0x110000) ∧
    (r.imageLast < 0x130 ∨ 0x130 < r.image) := by
  have htable : ∀ r ∈ lowerRuns, 0x61 ≤ r.image ∧
      (r.imageLast < 0xD800 ∨ 0xDFFF < r.image ∧ r.imageLast < 0x110000) ∧
      (r.imageLast < 0x130 ∨ 0x130 < r.image) := by
    decide +kernel
  exact htable r hr

end CaseRun

/-! ### Code points -/

/-- A code point stays as it is or is moved by one of the runs. -/
theorem lowerCodePoint_cases (n : Nat) :
    (∀ r ∈ lowerRuns, r.covers n = false) ∧ lowerCodePoint n = n ∨
      ∃ r ∈ lowerRuns, r.covers n = true ∧ lowerCodePoint n = r.image + (n - r.first) := by
  unfold lowerCodePoint
  cases h : lowerRuns.findSome? (·.map? n) with
  | none =>
    left
    rw [List.findSome?_eq_none_iff] at h
    exact ⟨fun r hr => by simpa [CaseRun.map?] using h r hr, rfl⟩
  | some m =>
    right
    obtain ⟨r, hr, hm⟩ := List.exists_of_findSome?_eq_some h
    rw [CaseRun.map?, Option.ite_none_right_eq_some, Option.some.injEq] at hm
    exact ⟨r, hr, hm.1, hm.2.symm⟩

theorem lowerCodePoint_of_not_covers {n : Nat} (h : ∀ r ∈ lowerRuns, r.covers n = false) :
    lowerCodePoint n = n := by
  rcases lowerCodePoint_cases n with ⟨-, hn⟩ | ⟨r, hr, hcovers, -⟩
  · exact hn
  · rw [h r hr] at hcovers
    cases hcovers

/-- The lower case of a code point is in lower case. -/
theorem lowerCodePoint_lowerCodePoint (n : Nat) :
    lowerCodePoint (lowerCodePoint n) = lowerCodePoint n := by
  rcases lowerCodePoint_cases n with ⟨-, hn⟩ | ⟨r, hr, hcovers, hn⟩
  · rw [hn, hn]
  · -- no run moves an image on
    rw [hn]
    exact lowerCodePoint_of_not_covers fun s hs =>
      CaseRun.covers_image (CaseRun.apart_of_mem hr hs) hcovers

/-- A code point that is moved goes behind `a`, and not to the dotted capital I. -/
theorem lowerCodePoint_bounds (c : Char) : (lowerCodePoint c.toNat).isValidChar ∧
    (lowerCodePoint c.toNat = c.toNat ∨
      0x61 ≤ lowerCodePoint c.toNat ∧ lowerCodePoint c.toNat ≠ 0x130) := by
  rcases lowerCodePoint_cases c.toNat with ⟨-, hsame⟩ | ⟨r, hr, hcovers, hmoved⟩
  · rw [hsame]
    exact ⟨c.valid, .inl rfl⟩
  · obtain ⟨hfirst, hlast, -⟩ := CaseRun.covers_iff.mp hcovers
    have hbounds := CaseRun.bounds_of_mem hr
    simp only [CaseRun.imageLast] at hbounds
    rw [hmoved, Nat.isValidChar]
    omega

/-! ### Characters -/

theorem toNat_ofNat {n : Nat} (hn : n.isValidChar) : (Char.ofNat n).toNat = n := by
  rw [Char.ofNat, dif_pos hn]
  rfl

theorem lowerChar_of_ne {c : Char} (h : c ≠ '\u0130') :
    lowerChar c = [Char.ofNat (lowerCodePoint c.toNat)] := if_neg h

/-- A character that comes out of lower-casing another one stays as it is. -/
theorem lowerChar_of_mem_lowerChar {c d : Char} (h : d ∈ lowerChar c) : lowerChar d = [d] := by
  by_cases hc : c = '\u0130'
  · rw [hc] at h
    obtain rfl | rfl : d = 'i' ∨ d = '\u0307' := by simpa [lowerChar] using h
    · decide
    · decide +kernel
  · rw [lowerChar_of_ne hc, List.mem_singleton] at h
    obtain ⟨hvalid, hbounds⟩ := lowerCodePoint_bounds c
    have htoNat : d.toNat = lowerCodePoint c.toNat := by rw [h]; exact toNat_ofNat hvalid
    -- a run moves no character to the dotted capital I
    have hd : d ≠ '\u0130' := by
      rintro rfl
      have hdotted : Char.toNat '\u0130' = 0x130 := rfl
      rw [hdotted] at htoNat
      rcases hbounds with hsame | ⟨-, hne⟩
      · exact hc (Char.toNat_inj.mp (hsame.symm.trans htoNat.symm))
      · exact hne htoNat.symm
    rw [lowerChar_of_ne hd, htoNat, lowerCodePoint_lowerCodePoint, ← htoNat, Char.ofNat_toNat]

/-- A character that lower-casing gives was there before, or is not in front of the small
    letters. -/
theorem eq_or_le_of_mem_lowerChar {c d : Char} (h : d ∈ lowerChar c) : d = c ∨ 0x61 ≤ d.toNat := by
  by_cases hc : c = '\u0130'
  · rw [hc] at h
    obtain rfl | rfl : d = 'i' ∨ d = '\u0307' := by simpa [lowerChar] using h
    · exact .inr (by decide)
    · exact .inr (by decide)
  · rw [lowerChar_of_ne hc, List.mem_singleton] at h
    obtain ⟨hvalid, hbounds⟩ := lowerCodePoint_bounds c
    rw [h, toNat_ofNat hvalid]
    rcases hbounds with hsame | ⟨hle, -⟩
    · left
      rw [hsame]
      exact Char.ofNat_toNat c
    · exact .inr hle

theorem lowerChar_of_isBlank {c : Char} (h : isBlank c = true) : lowerChar c = [c] := by
  have htable : ∀ r ∈ lowerRuns, ∀ range ∈ blanks.ranges, r.last < range.1 ∨ range.2 < r.first := by
    decide +kernel
  -- the runs and the ranges of blanks have nothing in common
  obtain ⟨range, hrange, hlow, hhigh⟩ := CharSet.contains_iff.mp h
  have hc : c ≠ '\u0130' := by
    rintro rfl
    cases h
  rw [lowerChar_of_ne hc, lowerCodePoint_of_not_covers, Char.ofNat_toNat]
  intro r hr
  rw [Bool.eq_false_iff, ne_eq, CaseRun.covers_iff]
  have hapart := htable r hr range hrange
  omega

/-- A blank that lower-casing gives was there before. -/
theorem eq_of_isBlank_of_mem_lowerChar {c d : Char} (hd : isBlank d = true)
    (h : d ∈ lowerChar c) : d = c := by
  have htable : ∀ r ∈ lowerRuns, ∀ range ∈ blanks.ranges,
      r.imageLast < range.1 ∨ range.2 < r.image := by
    decide +kernel
  by_cases hc : c = '\u0130'
  · rw [hc] at h
    obtain rfl | rfl : d = 'i' ∨ d = '\u0307' := by simpa [lowerChar] using h
    · have hi : isBlank 'i' = false := by decide
      simp [hi] at hd
    · have hdot : isBlank '\u0307' = false := by decide
      simp [hdot] at hd
  · rw [lowerChar_of_ne hc, List.mem_singleton] at h
    have htoNat : d.toNat = lowerCodePoint c.toNat := by
      rw [h]
      exact toNat_ofNat (lowerCodePoint_bounds c).1
    rcases lowerCodePoint_cases c.toNat with ⟨-, hsame⟩ | ⟨r, hr, hcovers, hmoved⟩
    · rw [h, hsame, Char.ofNat_toNat]
    · -- the ranges of blanks and the images of the runs have nothing in common
      obtain ⟨hfirst, hlast, -⟩ := CaseRun.covers_iff.mp hcovers
      obtain ⟨range, hrange, hlow, hhigh⟩ := CharSet.contains_iff.mp hd
      have hapart := htable r hr range hrange
      simp only [CaseRun.imageLast] at hapart
      omega

/-- Among the characters of ASCII, only the capital letters change. -/
theorem lowerCodePoint_of_ascii {n : Nat} (h : n < 128) :
    lowerCodePoint n = if 0x41 ≤ n ∧ n ≤ 0x5A then n + 0x20 else n := by
  have htable : ∀ r ∈ lowerRuns, r.first < 128 →
      r.first = 0x41 ∧ r.last = 0x5A ∧ r.image = 0x61 := by
    decide +kernel
  rcases lowerCodePoint_cases n with ⟨hnot, hsame⟩ | ⟨r, hr, hcovers, hmoved⟩
  · -- the run of the capital letters is one of those that do not cover `n`
    have hcapital : ¬ (0x41 ≤ n ∧ n ≤ 0x5A) := by
      have hfirst := hnot ⟨0x41, 0x5A, 1, 0x61⟩ List.mem_cons_self
      rw [Bool.eq_false_iff, ne_eq, CaseRun.covers_iff] at hfirst
      exact fun hletter => hfirst ⟨hletter.1, hletter.2, Nat.mod_one _⟩
    rw [hsame, if_neg hcapital]
  · obtain ⟨hlow, hhigh, -⟩ := CaseRun.covers_iff.mp hcovers
    obtain ⟨hfirst, hlast, himage⟩ := htable r hr (Nat.lt_of_le_of_lt hlow h)
    rw [hfirst] at hlow
    rw [hlast] at hhigh
    rw [hmoved, if_pos ⟨hlow, hhigh⟩, hfirst, himage]
    omega

/-- What is true of 128 characters is true of ASCII. -/
theorem forall_ascii {P : Char → Prop} (h : ∀ n : Fin 128, P (Char.ofNat n)) {c : Char}
    (hc : c.toNat < 128) : P c := by
  have hP := h ⟨c.toNat, hc⟩
  rwa [Char.ofNat_toNat] at hP

theorem lowerChar_eq_toLower {c : Char} (h : c.toNat < 128) : lowerChar c = [c.toLower] := by
  have hlower : Char.ofNat (if 0x41 ≤ c.toNat ∧ c.toNat ≤ 0x5A then c.toNat + 0x20 else c.toNat) =
      c.toLower :=
    forall_ascii (P := fun c => Char.ofNat (if 0x41 ≤ c.toNat ∧ c.toNat ≤ 0x5A then c.toNat + 0x20
      else c.toNat) = c.toLower) (by decide +kernel) h
  have hne : c ≠ '\u0130' := by
    rintro rfl
    revert h
    decide
  rw [lowerChar_of_ne hne, lowerCodePoint_of_ascii h, hlower]

theorem lowerChar_of_isQuote {c : Char} (h : isQuote c = true) : lowerChar c = [c] := by
  obtain rfl | rfl : c = '"' ∨ c = '\'' := by simpa [isQuote] using h
  · decide
  · decide

theorem toLower_of_not_ascii {c : Char} (h : ¬ c.toNat < 128) : c.toLower = c := by
  unfold Char.toLower
  rw [dif_neg]
  rintro ⟨-, hle⟩
  have hz : c.toNat ≤ 90 := hle
  omega

/-- A letter of ASCII has the lower case that ASCII gives it. -/
theorem lowerChar_of_toLower {c d : Char} (h : c.toLower = d) (hd : lowerChar d = [d]) :
    lowerChar c = [d] := by
  by_cases hc : c.toNat < 128
  · rw [lowerChar_eq_toLower hc, h]
  · rw [← h, toLower_of_not_ascii hc] at hd ⊢
    exact hd

/-- A small letter of ASCII is the character itself or a letter. -/
theorem toLower_eq_or_le (c : Char) : c.toLower = c ∨ 0x61 ≤ c.toLower.toNat := by
  by_cases hc : c.toNat < 128
  · refine eq_or_le_of_mem_lowerChar ?_
    rw [lowerChar_eq_toLower hc]
    exact List.mem_singleton_self _
  · exact .inl (toLower_of_not_ascii hc)

/-! ### Texts -/

/-- A text that lower-casing leaves as it is has no capital sigma in it, nor any other capital. -/
theorem lowerChar_of_lowerAfter_eq_self {before text : List Char}
    (h : lowerAfter before text = text) : ∀ c ∈ text, lowerChar c = [c] := by
  induction text generalizing before with
  | nil => simp
  | cons c rest ih =>
    rw [lowerAfter] at h
    by_cases hsigma : c = 'Σ'
    · -- neither form of the small sigma is the capital one
      rw [if_pos hsigma] at h
      obtain ⟨hhead, -⟩ := List.cons.inj h
      rw [hsigma] at hhead
      split at hhead <;> cases hhead
    · rw [if_neg hsigma] at h
      have hc : lowerChar c = [c] := by
        by_cases hdotted : c = '\u0130'
        · rw [hdotted] at h
          cases (List.cons.inj h).1
        · rw [lowerChar_of_ne hdotted] at h ⊢
          rw [(List.cons.inj h).1]
      rw [hc, List.singleton_append, List.cons.injEq] at h
      exact List.forall_mem_cons.mpr ⟨hc, ih h.2⟩

/-- What lower-casing may make of a text, one character after the other.  Only the surroundings
    tell which of its two small forms a capital sigma gets. -/
inductive Lowers : List Char → List Char → Prop
  | nil : Lowers [] []
  | cons {c : Char} {rest lowered : List Char} (h : Lowers rest lowered) :
      Lowers (c :: rest) (lowerChar c ++ lowered)
  | final {rest lowered : List Char} (h : Lowers rest lowered) :
      Lowers ('Σ' :: rest) ('ς' :: lowered)

theorem lowers_lowerAfter (before text : List Char) : Lowers text (lowerAfter before text) := by
  induction text generalizing before with
  | nil => exact .nil
  | cons c rest ih =>
    rw [lowerAfter]
    by_cases hsigma : c = 'Σ'
    · rw [if_pos hsigma, hsigma]
      by_cases hends : endsWord before rest = true
      · rw [if_pos hends]
        exact .final (ih _)
      · have hsmall : lowerChar 'Σ' = ['σ'] := by decide +kernel
        rw [if_neg hends, ← hsmall]
        exact .cons (ih _)
    · rw [if_neg hsigma]
      exact .cons (ih _)

/-- In this sense, lower-casing goes part by part. -/
theorem Lowers.of_append {xs ys lowered : List Char} (h : Lowers (xs ++ ys) lowered) :
    ∃ us vs, lowered = us ++ vs ∧ Lowers xs us ∧ Lowers ys vs := by
  induction xs generalizing lowered with
  | nil => exact ⟨[], lowered, rfl, .nil, h⟩
  | cons c rest ih =>
    rw [List.cons_append] at h
    cases h with
    | cons h =>
      obtain ⟨us, vs, rfl, hus, hvs⟩ := ih h
      exact ⟨lowerChar c ++ us, vs, by rw [List.append_assoc], .cons hus, hvs⟩
    | final h =>
      obtain ⟨us, vs, rfl, hus, hvs⟩ := ih h
      exact ⟨'ς' :: us, vs, rfl, .final hus, hvs⟩

/-- What is in lower case stays as it is. -/
theorem Lowers.eq_self {text lowered : List Char} (h : Lowers text lowered)
    (hlower : ∀ c ∈ text, lowerChar c = [c]) : lowered = text := by
  induction h with
  | nil => rfl
  | cons _ ih =>
    rw [List.forall_mem_cons] at hlower
    rw [hlower.1, ih hlower.2]
    rfl
  | final _ _ =>
    have hsigma : lowerChar 'Σ' ≠ ['Σ'] := by decide +kernel
    exact absurd (hlower 'Σ' List.mem_cons_self) hsigma

/-- Nothing disappears. -/
theorem Lowers.ne_nil {text lowered : List Char} (h : Lowers text lowered) (hne : text ≠ []) :
    lowered ≠ [] := by
  cases h with
  | nil => exact absurd rfl hne
  | @cons c _ _ _ =>
    unfold lowerChar
    split <;> simp
  | final _ => exact List.cons_ne_nil _ _

/-- What comes out of lower-casing is the lower case of a character, or the final sigma. -/
theorem Lowers.of_mem {text lowered : List Char} (h : Lowers text lowered) {d : Char}
    (hd : d ∈ lowered) : (∃ c ∈ text, d ∈ lowerChar c) ∨ d = 'ς' := by
  induction h with
  | nil => cases hd
  | @cons c _ _ _ ih =>
    rcases List.mem_append.mp hd with hd | hd
    · exact .inl ⟨c, List.mem_cons_self, hd⟩
    · refine (ih hd).imp_left fun ⟨c', hc', hd⟩ => ⟨c', List.mem_cons_of_mem _ hc', hd⟩
  | final _ ih =>
    rcases List.mem_cons.mp hd with rfl | hd
    · exact .inr rfl
    · refine (ih hd).imp_left fun ⟨c', hc', hd⟩ => ⟨c', List.mem_cons_of_mem _ hc', hd⟩

/-- A text is in lower case exactly if each of its characters is. -/
theorem lowerCase_eq_self_iff {text : List Char} :
    lowerCase text = text ↔ ∀ c ∈ text, lowerChar c = [c] :=
  ⟨lowerChar_of_lowerAfter_eq_self, (lowers_lowerAfter [] text).eq_self⟩

/-- **Lower case is final.** A character that comes out of lower-casing a text stays as it is. -/
theorem lowerChar_of_mem_lowerCase {text : List Char} {d : Char} (h : d ∈ lowerCase text) :
    lowerChar d = [d] := by
  rcases (lowers_lowerAfter [] text).of_mem h with ⟨c, -, hd⟩ | rfl
  · exact lowerChar_of_mem_lowerChar hd
  · decide +kernel

theorem mem_or_le_of_mem_lowerCase {text : List Char} {d : Char} (h : d ∈ lowerCase text) :
    d ∈ text ∨ 0x61 ≤ d.toNat := by
  rcases (lowers_lowerAfter [] text).of_mem h with ⟨c, hc, hd⟩ | rfl
  · rcases eq_or_le_of_mem_lowerChar hd with rfl | hle
    · exact .inl hc
    · exact .inr hle
  · exact .inr (by decide)

end TextRules
