import Mathlib.Algebra.Order.BigOperators.Group.List
import Mathlib.Algebra.Order.Ring.Nat
import TextRules.Proofs.Balances
import TextRules.Proofs.RoundTrip

namespace TextRules

/-!
# Calls with any number of arguments

A text may call a function with any number of arguments, as `max(min(1,2,3))` does.  The reader
does not look at the brackets: it lists the words of the text and asks whether the list is an
expression, so that an argument too many of one call can make up for one that is missing elsewhere.

* `WrittenExpr` — calls as they are written, with one argument or more.
* `WrittenExpr.readsAs` — the reader finds the listing of the calls in their text.
* `Operand.parse_written` — the answer is the one that the listing gets.
* `Operand.arguments_add_up` — which written calls are accepted, and what that says about their
  numbers of arguments.
-/

/-! ### Written calls -/

mutual

/-- A leaf, or a function with written arguments. -/
inductive WrittenExpr
  | leaf (l : Leaf)
  | call (f : Combinator) (arguments : WrittenArgs)

/-- The arguments of a call, of which there is at least one. -/
inductive WrittenArgs
  | last (e : WrittenExpr)
  | cons (e : WrittenExpr) (rest : WrittenArgs)

end

/-- How many arguments there are. -/
def WrittenArgs.count : WrittenArgs → Nat
  | .last _ => 1
  | .cons _ rest => rest.count + 1

mutual

/-- The characters of a written call. -/
def WrittenExpr.writing : WrittenExpr → List Char
  | .leaf l => (Expr.leaf l).writing
  | .call f arguments => f.keyword.toList ++ '(' :: (arguments.writing ++ [')'])

def WrittenArgs.writing : WrittenArgs → List Char
  | .last e => e.writing
  | .cons e rest => e.writing ++ ',' :: rest.writing

end

mutual

/-- The parts of a written call in the order in which they are written. -/
def WrittenExpr.tokens : WrittenExpr → Operand
  | .leaf l => [.leaf l]
  | .call f arguments => .call f :: arguments.tokens

def WrittenArgs.tokens : WrittenArgs → Operand
  | .last e => e.tokens
  | .cons e rest => e.tokens ++ rest.tokens

end

mutual

/-- The numbers of arguments of all calls, in the order in which they are written. -/
def WrittenExpr.arities : WrittenExpr → List Nat
  | .leaf _ => []
  | .call _ arguments => arguments.count :: arguments.arities

def WrittenArgs.arities : WrittenArgs → List Nat
  | .last e => e.arities
  | .cons e rest => e.arities ++ rest.arities

end

/-- The text of a written call. -/
def WrittenExpr.text (e : WrittenExpr) : String := String.ofList e.writing

/-- Whether a leaf is written in the canonical way: a number is not negative, and a text to count
    is not empty and has no characters that the reader drops or cuts at.  It may have capitals. -/
def Leaf.Canonical : Leaf → Prop
  | .number value => 0 ≤ value.toInt
  | .count needle => needle.toList ≠ [] ∧
      ∀ c ∈ needle.toList, isFiller c = false ∧ isDelimiter c = false
  | .total | .average => True

/-- Whether all leaves are written in the canonical way. -/
def Operand.Canonical (tokens : Operand) : Prop := ∀ l, Token.leaf l ∈ tokens → l.Canonical

example : (WrittenExpr.call .max (.last (.call .min (.cons (.leaf (.number 1)) (.cons
    (.leaf (.number 2)) (.last (.leaf (.number 3)))))))).text = "max(min(1,2,3))" := by
  decide +kernel

/-! ### Tokens of one kind -/

/-- Two tokens that make no difference to the shape of an operand. -/
inductive Token.SameKind : Token → Token → Prop
  | call (f : Combinator) : SameKind (.call f) (.call f)
  | leaf (l l' : Leaf) : SameKind (.leaf l) (.leaf l')

theorem shapeReading_run_eq {tokens tokens' : Operand}
    (h : List.Forall₂ Token.SameKind tokens tokens') (slots : List (Slot Combinator Unit)) :
    shapeReading.run slots tokens = shapeReading.run slots tokens' := by
  induction h generalizing slots with
  | nil => rfl
  | @cons t t' rest rest' hkind _ ih =>
    have hstep : shapeReading.step slots t = shapeReading.step slots t' := by
      cases hkind with
      | call f => rfl
      | leaf l l' => rw [shapeReading_step_leaf, shapeReading_step_leaf]
    rw [Reading.run_cons, Reading.run_cons, hstep]
    congr 1
    funext next
    exact ih next

/-- The check sees no difference between tokens of one kind. -/
theorem Operand.check_eq_of_sameKind {tokens tokens' : Operand}
    (h : List.Forall₂ Token.SameKind tokens tokens') :
    Operand.check tokens = Operand.check tokens' := by
  rw [check_eq_bind, check_eq_bind, shapeReading_run_eq h]

/-! ### What the reader finds in written calls -/

/-- Plain characters stay where they are. -/
theorem Lowers.eq_of_plain {text lowered : List Char} (h : Lowers text lowered)
    (hplain : text.all isPlain = true) : lowered = text :=
  h.eq_self fun c hc => lowerChar_of_isPlain (List.all_eq_true.mp hplain c hc)

theorem Lowers.of_cons {c : Char} {rest lowered : List Char} (hc : isPlain c = true)
    (h : Lowers (c :: rest) lowered) : ∃ vs, lowered = c :: vs ∧ Lowers rest vs := by
  rw [← List.singleton_append] at h
  obtain ⟨us, vs, rfl, hus, hvs⟩ := h.of_append
  have hsame : us = [c] := hus.eq_of_plain (by simp [hc])
  exact ⟨vs, by rw [hsame, List.singleton_append], hvs⟩

theorem Lowers.of_append_cons {xs ys lowered : List Char} {c : Char} (hc : isPlain c = true)
    (h : Lowers (xs ++ c :: ys) lowered) :
    ∃ us vs, lowered = us ++ c :: vs ∧ Lowers xs us ∧ Lowers ys vs := by
  obtain ⟨us, rest, rfl, hus, hrest⟩ := h.of_append
  obtain ⟨vs, rfl, hvs⟩ := hrest.of_cons hc
  exact ⟨us, vs, rfl, hus, hvs⟩

/-- A character that is neither dropped nor cut at is none of these in lower case either. -/
theorem clean_of_mem_lowerChar {c d : Char} (hc : isFiller c = false ∧ isDelimiter c = false)
    (h : d ∈ lowerChar c) : isFiller d = false ∧ isDelimiter d = false := by
  rcases eq_or_le_of_mem_lowerChar h with rfl | hle
  · exact hc
  · have hnot : ∀ e : Char, e.toNat < 0x61 → (d == e) = false := by
      intro e he
      rw [beq_eq_false_iff_ne]
      rintro rfl
      omega
    have hblank : isBlank d = false := by
      by_contra hd
      rw [Bool.not_eq_false] at hd
      rw [← eq_of_isBlank_of_mem_lowerChar hd h, isFiller, hd, Bool.true_or] at hc
      cases hc.1
    rw [isFiller, isQuote, isDelimiter, hblank, hnot '"' (by decide), hnot '\'' (by decide),
      hnot ',' (by decide), hnot '(' (by decide), hnot ')' (by decide)]
    exact ⟨rfl, rfl⟩

/-- The words of a text write tokens that are of the same kinds as the given ones. -/
def ReadsAs (tokens : Operand) (text : List Char) : Prop :=
  ∃ found : Operand, List.Forall₂ Token.SameKind tokens found ∧ (∀ t ∈ found, t.Proper) ∧
    keptWords text = found.flatMap Token.words

namespace ReadsAs

theorem nil : ReadsAs [] [] := ⟨[], .nil, by simp, by simp [keptWords, words]⟩

theorem singleton {t found : Token} {text : List Char} (hkind : t.SameKind found)
    (hproper : found.Proper) (hwords : keptWords text = found.words) : ReadsAs [t] text := by
  refine ⟨[found], .cons hkind .nil, ?_, by rw [hwords, List.flatMap_singleton]⟩
  intro other hother
  rw [List.mem_singleton.mp hother]
  exact hproper

theorem keyword (f : Combinator) : ReadsAs [.call f] f.keyword.toList :=
  .singleton (.call f) trivial f.keptWords_keyword

/-- Texts with a delimiter between them are read one after the other. -/
theorem append_cons {before after : Operand} {us vs : List Char} {c : Char}
    (hc : isDelimiter c = true) (hus : ReadsAs before us) (hvs : ReadsAs after vs) :
    ReadsAs (before ++ after) (us ++ c :: vs) := by
  obtain ⟨found, hkind, hproper, hwords⟩ := hus
  obtain ⟨found', hkind', hproper', hwords'⟩ := hvs
  refine ⟨found ++ found', List.rel_append hkind hkind', ?_, ?_⟩
  · intro t ht
    exact (List.mem_append.mp ht).elim (hproper t) (hproper' t)
  · rw [keptWords_append_cons hc, hwords, hwords', List.flatMap_append]

/-- Beside texts to count, leaves are written in lower case. -/
theorem of_renderable {l : Leaf} (hl : (Token.leaf l).Renderable) {text : List Char}
    (h : Lowers (Expr.leaf l).writing text) : ReadsAs [.leaf l] text := by
  have he : (Expr.leaf l).Renderable := Expr.renderable_leaf.mpr hl
  have hsame : text = (Expr.leaf l).writing := h.eq_self fun c hc => by
    obtain ⟨g, hg, rfl⟩ := List.mem_map.mp hc
    exact Expr.lowerChar_of_mem_glyphs he hg
  refine .singleton (.leaf l l) hl.proper ?_
  rw [hsame, Expr.keptWords_writing he, Expr.tokens, List.flatMap_singleton]

/-- A text to count is still there in lower case, though it may be another one. -/
theorem count {needle : String} (hl : (Leaf.count needle).Canonical) {text : List Char}
    (h : Lowers (Expr.leaf (.count needle)).writing text) :
    ReadsAs [.leaf (.count needle)] text := by
  obtain ⟨hne, hclean⟩ := hl
  rw [Expr.writing_count] at h
  obtain ⟨keyword, inner, rfl, hkeyword, hinner⟩ := h.of_append_cons (by decide)
  obtain ⟨quoted, rfl, hquoted⟩ := hinner.of_cons (by decide)
  obtain ⟨word, rest, rfl, hword, hrest⟩ := hquoted.of_append_cons (by decide)
  have hkeyword : keyword = countKeyword.toList := hkeyword.eq_of_plain (by decide)
  have hrest : rest = [')'] := hrest.eq_of_plain (by decide)
  have hwordClean : ∀ d ∈ word, isFiller d = false ∧ isDelimiter d = false := by
    intro d hd
    rcases hword.of_mem hd with ⟨c, hc, hd⟩ | rfl
    · exact clean_of_mem_lowerChar (hclean c hc) hd
    · exact ⟨by decide, by decide⟩
  have hwordNe : word ≠ [] := hword.ne_nil hne
  refine .singleton (.leaf _ (.count (String.ofList word))) ?_ ?_
  · simpa [Token.Proper] using hwordNe
  · rw [hkeyword, hrest, keptWords_count hwordNe hwordClean, Token.words, String.toList_ofList]

end ReadsAs

mutual

/-- **The reader finds the listing of written calls**, whatever their brackets are. -/
theorem WrittenExpr.readsAs : ∀ {e : WrittenExpr} {text : List Char}, Operand.Canonical e.tokens →
    Lowers e.writing text → ReadsAs e.tokens text
  | .leaf l, text, he, h => by
    have hl : l.Canonical := he l (List.mem_singleton_self _)
    cases l with
    | count needle => exact .count hl h
    | number _ | total | average =>
      -- for these, to be canonical is to be renderable
      refine .of_renderable ?_ h
      exact hl
  | .call f arguments, text, he, h => by
    rw [WrittenExpr.writing] at h
    obtain ⟨name, rest, rfl, hname, hrest⟩ := h.of_append_cons (by decide)
    obtain ⟨inner, rest, rfl, hinner, hrest⟩ := hrest.of_append_cons (by decide)
    have hname : name = f.keyword.toList := hname.eq_of_plain f.all_isPlain_keyword
    have hrest : rest = [] := hrest.eq_of_plain rfl
    have harguments : ReadsAs arguments.tokens inner :=
      WrittenArgs.readsAs (fun l hl => he l (List.mem_cons_of_mem _ hl)) hinner
    -- both brackets only end a word: nothing is left of them in the listing
    have hall := (ReadsAs.keyword f).append_cons (by decide : isDelimiter '(' = true)
      (harguments.append_cons (by decide : isDelimiter ')' = true) .nil)
    rw [hname, hrest, WrittenExpr.tokens]
    simpa using hall

theorem WrittenArgs.readsAs : ∀ {arguments : WrittenArgs} {text : List Char},
    Operand.Canonical arguments.tokens → Lowers arguments.writing text →
      ReadsAs arguments.tokens text
  | .last e, text, he, h => WrittenExpr.readsAs he h
  | .cons e rest, text, he, h => by
    rw [WrittenArgs.writing] at h
    obtain ⟨first, others, rfl, hfirst, hothers⟩ := h.of_append_cons (by decide)
    have hread := WrittenExpr.readsAs (fun l hl => he l (List.mem_append_left _ hl)) hfirst
    have hreadRest := WrittenArgs.readsAs (fun l hl => he l (List.mem_append_right _ hl)) hothers
    exact hread.append_cons (by decide) hreadRest

end

/-- **Only the listing counts.** Written calls are answered by what the check says about their
    parts in the order in which they are written. -/
theorem Operand.parse_written {e : WrittenExpr} (he : Operand.Canonical e.tokens) :
    ∃ tokens, List.Forall₂ Token.SameKind e.tokens tokens ∧
      Operand.parse e.text =
        ((Operand.check e.tokens).mapError .shape).map fun _ => tokens := by
  obtain ⟨tokens, hkind, hproper, hwords⟩ := WrittenExpr.readsAs he (lowers_lowerAfter [] e.writing)
  -- there is a word, so that the reader does not find the operand empty
  have hne : tokens ≠ [] := by
    rintro rfl
    cases e <;> cases hkind
  have hread : Operand.read e.text = .ok tokens := by
    refine read_eq_ok_iff.mpr ⟨?_, hne⟩
    rw [WrittenExpr.text, String.toList_ofList, normalize_eq_filter]
    show scanWords false (keptWords (lowerCase e.writing)) = _
    rw [lowerCase, hwords, scanWords_flatMap_words hproper]
  refine ⟨tokens, hkind, ?_⟩
  rw [parse_eq_bind, hread, check_eq_of_sameKind hkind, mapError_ok]
  show ((Operand.check tokens).mapError OperandError.shape).bind (fun _ => .ok tokens) = _
  cases Operand.check tokens <;> rfl

/-! ### Counting arguments -/

mutual

/-- Every part but the outermost one is an argument. -/
theorem WrittenExpr.length_tokens : ∀ e : WrittenExpr, e.tokens.length = e.arities.sum + 1
  | .leaf l => rfl
  | .call f arguments => by
    rw [WrittenExpr.tokens, WrittenExpr.arities, List.length_cons, List.sum_cons,
      WrittenArgs.length_tokens arguments]
    omega

theorem WrittenArgs.length_tokens :
    ∀ arguments : WrittenArgs, arguments.tokens.length = arguments.arities.sum + arguments.count
  | .last e => WrittenExpr.length_tokens e
  | .cons e rest => by
    rw [WrittenArgs.tokens, WrittenArgs.arities, WrittenArgs.count, List.length_append,
      List.sum_append, WrittenExpr.length_tokens e, WrittenArgs.length_tokens rest]
    omega

end

mutual

theorem WrittenExpr.countP_calls : ∀ e : WrittenExpr,
    e.tokens.countP (fun t => !t.isLeaf) = e.arities.length
  | .leaf l => rfl
  | .call f arguments => by
    rw [WrittenExpr.tokens, WrittenExpr.arities, List.countP_cons,
      WrittenArgs.countP_calls arguments]
    rfl

theorem WrittenArgs.countP_calls : ∀ arguments : WrittenArgs,
    arguments.tokens.countP (fun t => !t.isLeaf) = arguments.arities.length
  | .last e => WrittenExpr.countP_calls e
  | .cons e rest => by
    rw [WrittenArgs.tokens, WrittenArgs.arities, List.countP_append, List.length_append,
      WrittenExpr.countP_calls e, WrittenArgs.countP_calls rest]

end

/-- If the listing is an expression, there are twice as many arguments as calls. -/
theorem WrittenExpr.sum_arities_of_lists {e : WrittenExpr} {x : Expr} (h : x.tokens = e.tokens) :
    e.arities.sum = 2 * e.arities.length := by
  -- a listing of `n` calls has `2 * n + 1` parts, all but one of which are arguments
  have hleaves := x.balance_tokens
  rw [h, Operand.balance] at hleaves
  have hlength := List.length_eq_countP_add_countP Token.isLeaf (l := e.tokens)
  have hcalls := e.countP_calls
  have htotal := e.length_tokens
  simp only [decide_not, Bool.decide_eq_true] at hlength
  omega

mutual

/-- Calls with two arguments each are written as expressions are. -/
theorem WrittenExpr.exists_expr : ∀ {e : WrittenExpr}, (∀ k ∈ e.arities, k = 2) →
    ∃ x : Expr, x.tokens = e.tokens
  | .leaf l, _ => ⟨.leaf l, rfl⟩
  | .call f arguments, h => by
    obtain ⟨xs, hlength, htokens⟩ :=
      WrittenArgs.exists_exprs fun k hk => h k (List.mem_cons_of_mem _ hk)
    rw [h arguments.count List.mem_cons_self] at hlength
    obtain ⟨left, right, rfl⟩ := List.length_eq_two.mp hlength
    refine ⟨.call f left right, ?_⟩
    rw [WrittenExpr.tokens, ← htokens]
    simp [Expr.tokens]

theorem WrittenArgs.exists_exprs : ∀ {arguments : WrittenArgs}, (∀ k ∈ arguments.arities, k = 2) →
    ∃ xs : List Expr, xs.length = arguments.count ∧ xs.flatMap Expr.tokens = arguments.tokens
  | .last e, h => by
    obtain ⟨x, hx⟩ := WrittenExpr.exists_expr h
    exact ⟨[x], rfl, by rw [List.flatMap_singleton, hx, WrittenArgs.tokens]⟩
  | .cons e rest, h => by
    obtain ⟨x, hx⟩ := WrittenExpr.exists_expr fun k hk => h k (List.mem_append_left _ hk)
    obtain ⟨xs, hlength, hxs⟩ :=
      WrittenArgs.exists_exprs fun k hk => h k (List.mem_append_right _ hk)
    refine ⟨x :: xs, by rw [List.length_cons, hlength, WrittenArgs.count], ?_⟩
    rw [List.flatMap_cons, hx, hxs, WrittenArgs.tokens]

end

/-- Numbers that are all two at least, or all two at most, and two on average are all two. -/
theorem forall_eq_two_of_sum {ks : List Nat} (hsum : ks.sum = 2 * ks.length)
    (h : (∀ k ∈ ks, 2 ≤ k) ∨ ∀ k ∈ ks, k ≤ 2) : ∀ k ∈ ks, k = 2 := by
  induction ks with
  | nil => simp
  | cons k rest ih =>
    rw [List.sum_cons, List.length_cons] at hsum
    -- the others cannot make up for a number on the wrong side
    have hk : k = 2 ∧ rest.sum = 2 * rest.length := by
      rcases h with h | h
      · rw [List.forall_mem_cons] at h
        have hrest := rest.card_nsmul_le_sum 2 h.2
        rw [nsmul_eq_mul, Nat.cast_id] at hrest
        omega
      · rw [List.forall_mem_cons] at h
        have hrest := rest.sum_le_card_nsmul 2 h.2
        rw [nsmul_eq_mul, Nat.cast_id] at hrest
        omega
    refine List.forall_mem_cons.mpr ⟨hk.1, ih hk.2 ?_⟩
    exact h.imp (fun h => (List.forall_mem_cons.mp h).2) fun h => (List.forall_mem_cons.mp h).2

namespace Operand

/-- **Arguments only have to add up.** Written calls are accepted exactly if their parts, in the
    order in which they are written, list an expression.  Calls with two arguments each are
    accepted.  Accepted calls have two arguments on average; so no call has one too many or too
    few if none makes up for it. -/
theorem arguments_add_up {e : WrittenExpr} (he : Operand.Canonical e.tokens) :
    ((∃ tokens, Operand.parse e.text = .ok tokens) ↔ ∃ x : Expr, x.tokens = e.tokens) ∧
    ((∀ k ∈ e.arities, k = 2) → ∃ tokens, Operand.parse e.text = .ok tokens) ∧
    ((∃ tokens, Operand.parse e.text = .ok tokens) → e.arities.sum = 2 * e.arities.length) ∧
    ((∀ k ∈ e.arities, 2 ≤ k) ∨ (∀ k ∈ e.arities, k ≤ 2) →
      ((∃ tokens, Operand.parse e.text = .ok tokens) ↔ ∀ k ∈ e.arities, k = 2)) := by
  have haccepted : (∃ tokens, Operand.parse e.text = .ok tokens) ↔
      ∃ x : Expr, x.tokens = e.tokens := by
    obtain ⟨tokens, -, hparse⟩ := parse_written he
    rw [hparse, ← check_eq_ok_iff]
    cases Operand.check e.tokens <;> simp [Except.map]
  have hsum : (∃ tokens, Operand.parse e.text = .ok tokens) →
      e.arities.sum = 2 * e.arities.length := by
    intro h
    obtain ⟨x, hx⟩ := haccepted.mp h
    exact WrittenExpr.sum_arities_of_lists hx
  refine ⟨haccepted, fun h => haccepted.mpr (WrittenExpr.exists_expr h), hsum, fun hside => ?_⟩
  exact ⟨fun h => forall_eq_two_of_sum (hsum h) hside,
    fun h => haccepted.mpr (WrittenExpr.exists_expr h)⟩

theorem arguments_add_up_past_capitals :
    ¬∃ tokens, Operand.parse "max(count('ΑΣ'),2,3)" = .ok tokens := by
  let e : WrittenExpr := .call .max (.cons (.leaf (.count "ΑΣ"))
    (.cons (.leaf (.number 2)) (.last (.leaf (.number 3)))))
  have hcanonical : Operand.Canonical e.tokens := by
    intro l hl
    have hl : l = .count "ΑΣ" ∨ l = .number 2 ∨ l = .number 3 := by
      simpa [e, WrittenExpr.tokens, WrittenArgs.tokens] using hl
    obtain rfl | rfl | rfl := hl
    · refine ⟨by decide, fun c hc => ?_⟩
      obtain rfl | rfl : c = 'Α' ∨ c = 'Σ' := by simpa using hc
      · exact ⟨by decide, by decide⟩
      · exact ⟨by decide, by decide⟩
    · show 0 ≤ Int64.toInt 2
      decide
    · show 0 ≤ Int64.toInt 3
      decide
  have htext : e.text = "max(count('ΑΣ'),2,3)" := by decide +kernel
  have hcounted := (arguments_add_up hcanonical).2.2.2 (.inl (by decide))
  rw [htext] at hcounted
  rw [hcounted]
  decide

/-- Numbers of arguments are not checked call by call: three arguments of one call make up for the
    single argument of another. -/
theorem arguments_not_counted : ¬∀ e : WrittenExpr, Operand.Canonical e.tokens →
    ((∃ tokens, Operand.parse e.text = .ok tokens) ↔ ∀ k ∈ e.arities, k = 2) := by
  intro h
  let inner : WrittenExpr := .call .min (.cons (.leaf (.number 1)) (.cons (.leaf (.number 2))
    (.last (.leaf (.number 3)))))
  let e : WrittenExpr := .call .max (.last inner)
  have hcanonical : Operand.Canonical e.tokens := by
    intro l hl
    have hl : l = .number 1 ∨ l = .number 2 ∨ l = .number 3 := by
      simpa [e, inner, WrittenExpr.tokens, WrittenArgs.tokens] using hl
    obtain rfl | rfl | rfl := hl
    · show 0 ≤ Int64.toInt 1
      decide
    · show 0 ≤ Int64.toInt 2
      decide
    · show 0 ≤ Int64.toInt 3
      decide
  have hparse : Operand.parse e.text = .ok [.call .max, .call .min, .leaf (.number 1),
      .leaf (.number 2), .leaf (.number 3)] := by
    decide +kernel
  have hall := (h e hcanonical).mp ⟨_, hparse⟩
  exact absurd (hall 1 List.mem_cons_self) (by decide)

end Operand

end TextRules
