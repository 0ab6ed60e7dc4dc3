import TextRules.Text.Brackets

namespace TextRules

/-!
# Bracket sequences

Whether brackets are balanced is found by counting a depth from left to right.  The texts that are
accepted are those whose brackets form a sequence of a grammar without any count in it: nothing, or
a pair of brackets around a sequence with another sequence behind it.

* `BracketSequence.depth?_eq` — a sequence leads back to the depth at which it starts.
* `exists_first_return` — what comes back from a depth first goes back by one, behind a sequence.
* `depth?_eq_some_iff` — the depth by numbers of brackets alone.
* `balanced_iff_grammar` — balanced texts by the grammar and by numbers; other characters do not
  matter.
-/

/-- Sequences of brackets in which each bracket has its partner. -/
inductive BracketSequence : List Char → Prop
  | empty : BracketSequence []
  | pair {inside after : List Char} (hinside : BracketSequence inside)
      (hafter : BracketSequence after) : BracketSequence ('(' :: (inside ++ ')' :: after))

/-! ### Single brackets -/

@[simp] theorem depth?_open (depth : Nat) (rest : List Char) :
    depth? depth ('(' :: rest) = depth? (depth + 1) rest := rfl

@[simp] theorem depth?_close_zero (rest : List Char) : depth? 0 (')' :: rest) = none := rfl

@[simp] theorem depth?_close_succ (depth : Nat) (rest : List Char) :
    depth? (depth + 1) (')' :: rest) = depth? depth rest := rfl

theorem depth?_of_not_isBracket {c : Char} (h : isBracket c = false) (depth : Nat)
    (rest : List Char) : depth? depth (c :: rest) = depth? depth rest := by
  rw [← depth?_filter_isBracket, List.filter_cons_of_neg (by simp [h]), depth?_filter_isBracket]

theorem eq_of_isBracket {c : Char} (h : isBracket c = true) : c = '(' ∨ c = ')' := by
  simpa [isBracket] using h

/-! ### The grammar -/

/-- A sequence leads back to the depth at which it starts. -/
theorem BracketSequence.depth?_eq {brackets : List Char} (h : BracketSequence brackets)
    (depth : Nat) : depth? depth brackets = some depth := by
  induction h generalizing depth with
  | empty => rfl
  | pair _ _ ihInside ihAfter =>
    rw [depth?_open, depth?_append, ihInside, Option.bind_some, depth?_close_succ, ihAfter]

/-- What comes back from a depth goes back by one first, and that behind a sequence. -/
theorem exists_first_return {depth : Nat} {brackets : List Char}
    (hbrackets : ∀ c ∈ brackets, isBracket c = true) (h : depth? (depth + 1) brackets = some 0) :
    ∃ inside after, brackets = inside ++ ')' :: after ∧ BracketSequence inside ∧
      depth? depth after = some 0 := by
  -- what follows a bracket that opens has to go back twice, and the second time starts further on
  induction hlength : brackets.length using Nat.strongRecOn
    generalizing brackets depth with
  | ind length ih =>
    cases brackets with
    | nil => simp at h
    | cons c rest =>
      rw [List.length_cons] at hlength
      obtain ⟨hc, hrest⟩ := List.forall_mem_cons.mp hbrackets
      obtain rfl | rfl := eq_of_isBracket hc
      · rw [depth?_open] at h
        obtain ⟨inside, after, rfl, hinside, hafter⟩ := ih _ (by omega) hrest h rfl
        rw [List.forall_mem_append, List.forall_mem_cons] at hrest
        rw [List.length_append, List.length_cons] at hlength
        obtain ⟨inside', after', rfl, hinside', hafter'⟩ := ih _ (by omega) hrest.2.2 hafter rfl
        refine ⟨'(' :: (inside ++ ')' :: inside'), after', ?_, .pair hinside hinside', hafter'⟩
        simp
      · rw [depth?_close_succ] at h
        exact ⟨[], rest, rfl, .empty, h⟩

/-- Brackets that lead from no depth back to none are a sequence. -/
theorem BracketSequence.of_depth?_eq {brackets : List Char}
    (hbrackets : ∀ c ∈ brackets, isBracket c = true) (h : depth? 0 brackets = some 0) :
    BracketSequence brackets := by
  -- the first return to no depth cuts off a pair
  induction hlength : brackets.length using Nat.strongRecOn generalizing brackets with
  | ind length ih =>
    cases brackets with
    | nil => exact .empty
    | cons c rest =>
      obtain ⟨hc, hrest⟩ := List.forall_mem_cons.mp hbrackets
      obtain rfl | rfl := eq_of_isBracket hc
      · rw [depth?_open] at h
        obtain ⟨inside, after, rfl, hinside, hafter⟩ := exists_first_return hrest h
        rw [List.forall_mem_append, List.forall_mem_cons] at hrest
        rw [List.length_cons, List.length_append, List.length_cons] at hlength
        exact .pair hinside (ih _ (by omega) hrest.2.2 hafter rfl)
      · rw [depth?_close_zero] at h
        cases h

/-! ### Numbers of brackets -/

/-- The beginnings of a text are the empty one and those with its first character. -/
theorem forall_isPrefix_cons {c : Char} {rest : List Char} {p : List Char → Prop} :
    (∀ before, before <+: c :: rest → p before) ↔
      p [] ∧ ∀ before, before <+: rest → p (c :: before) := by
  constructor
  · intro h
    exact ⟨h [] List.nil_prefix, fun tail htail =>
      h (c :: tail) (List.cons_prefix_cons.mpr ⟨rfl, htail⟩)⟩
  · rintro ⟨hnil, hcons⟩ before hbefore
    obtain rfl | ⟨tail, rfl, htail⟩ := List.prefix_cons_iff.mp hbefore
    · exact hnil
    · exact hcons tail htail

/-- A text leads from one depth to another exactly if no beginning of it closes more brackets than
    are open, and the brackets of the whole text make up the difference. -/
theorem depth?_eq_some_iff {depth last : Nat} {text : List Char} :
    depth? depth text = some last ↔
      (∀ before, before <+: text → before.count ')' ≤ depth + before.count '(') ∧
        depth + text.count '(' = last + text.count ')' := by
  induction text generalizing depth with
  | nil => simp [List.prefix_nil]
  | cons c rest ih =>
    rw [forall_isPrefix_cons]
    cases hc : isBracket c with
    | false =>
      have hne : c ≠ '(' ∧ c ≠ ')' := by simpa [isBracket] using hc
      rw [depth?_of_not_isBracket hc, ih]
      simp [hne]
    | true =>
      obtain rfl | rfl := eq_of_isBracket hc
      · rw [depth?_open, ih]
        simp [Nat.add_right_comm depth 1, Nat.add_assoc]
      · cases depth with
        | zero =>
          -- the bracket alone closes more than are open
          refine iff_of_false (by simp) fun h => ?_
          have hfirst := h.1.2 [] List.nil_prefix
          simp at hfirst
        | succ depth =>
          rw [depth?_close_succ, ih]
          simp [Nat.add_right_comm depth 1, ← Nat.add_assoc]

/-! ### Texts -/

theorem balanced_eq_true_iff {text : String} :
    balanced text = true ↔ depth? 0 text.toList = some 0 := by
  simp [balanced]

/-- Texts with the same brackets in the same order are balanced together. -/
theorem balanced_congr {text other : String}
    (h : other.toList.filter isBracket = text.toList.filter isBracket) :
    balanced other = balanced text := by
  rw [balanced, balanced, ← depth?_filter_isBracket 0 other.toList, h, depth?_filter_isBracket]

/-- **Balanced texts are those of the grammar.** The brackets of a text are balanced exactly if they
    form a bracket sequence; and exactly if no beginning of the text closes more brackets than it
    opens, and the whole text opens as many as it closes.  Other characters can be put in and taken
    out anywhere, and of two texts with the same brackets in the same order both are balanced or
    none is. -/
theorem balanced_iff_grammar (text : String) :
    (balanced text = true ↔ BracketSequence (text.toList.filter isBracket)) ∧
    (balanced text = true ↔
      (∀ before, before <+: text.toList → before.count ')' ≤ before.count '(') ∧
        text.toList.count '(' = text.toList.count ')') ∧
    (∀ before between after : String, (∀ c ∈ between.toList, isBracket c = false) →
      balanced (before ++ between ++ after) = balanced (before ++ after)) ∧
    ∀ other : String, other.toList.filter isBracket = text.toList.filter isBracket →
      balanced other = balanced text := by
  refine ⟨?_, ?_, ?_, fun other => balanced_congr⟩
  · rw [balanced_eq_true_iff, ← depth?_filter_isBracket]
    constructor
    · exact .of_depth?_eq fun c hc => (List.mem_filter.mp hc).2
    · exact fun h => h.depth?_eq 0
  · rw [balanced_eq_true_iff, depth?_eq_some_iff]
    simp only [Nat.zero_add]
  · intro before between after hbetween
    have hnone : between.toList.filter isBracket = [] := by
      rw [List.filter_eq_nil_iff]
      simpa using hbetween
    apply balanced_congr
    simp [hnone]

end TextRules
