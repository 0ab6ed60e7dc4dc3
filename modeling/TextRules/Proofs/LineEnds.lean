import Mathlib.Data.List.DropRight
import TextRules.CommandLine.Program
import TextRules.Proofs.BatchCommand
import TextRules.Proofs.Evaluation
import TextRules.Proofs.Numbers
import TextRules.Proofs.Occurrences
import TextRules.Proofs.RoundTrip

namespace TextRules

/-!
# Line ends behind the checked text

The program takes the line ends off its standard input, but not off a text that it is given.  No
rule can tell: blanks and quotes behind a text, line ends among them, neither go on with a number
nor start one, and no text to count that was read has one in it.

* `NumberStats.ofText_append`, `occurrences_append` — what does not change, and behind which texts.
* `Command.check_append_fillers` — no list of rules is checked in another way, or with other log
  records, when blanks and quotes are added behind the text.
* `Program.check_ignores_line_ends` — so a text may be given or piped, with line ends or without.
-/

/-! ### Numbers -/

/-- Where no digit follows, nothing is found that is not being read already. -/
theorem NumberScan.stats_foldl_step_of_not_isDigit (s : NumberScan) {tail : List Char}
    (h : ∀ c ∈ tail, c.isDigit = false) : (tail.foldl step s).stats = s.stats := by
  induction tail generalizing s with
  | nil => rfl
  | cons c rest ih =>
    rw [List.forall_mem_cons] at h
    -- a number that ends at `c` is one that would have ended with the text
    rw [List.foldl_cons, step_of_not_isDigit s h.1, ih _ h.2]
    rfl

/-- What has no digits does not change the numbers of the text in front of it. -/
theorem NumberStats.ofText_append (text : String) {tail : String}
    (h : ∀ c ∈ tail.toList, c.isDigit = false) : ofText (text ++ tail) = ofText text := by
  rw [ofText, String.toList_append, List.foldl_append,
    NumberScan.stats_foldl_step_of_not_isDigit _ h]
  rfl

/-- Only the text itself is another one. -/
theorem Subject.ofText_append (policy : EmptyPolicy) (text : String) {tail : String}
    (h : ∀ c ∈ tail.toList, c.isDigit = false) :
    ofText policy (text ++ tail) = { ofText policy text with text := text ++ tail } := by
  simp only [ofText, NumberStats.ofText_append text h]
  split <;> rfl

/-! ### Occurrences -/

section Occurrences

variable {needle tail : List Char}

/-- An occurrence at a place in a text does not reach into a tail that shares no character with
    it. -/
theorem isPrefixOf_append (h : ∀ c ∈ needle, c ∉ tail) (text : List Char) :
    needle.isPrefixOf (text ++ tail) = needle.isPrefixOf text := by
  rw [Bool.eq_iff_iff, List.isPrefixOf_iff_prefix, List.isPrefixOf_iff_prefix]
  refine ⟨fun hlong => ?_, fun hshort => hshort.trans (List.prefix_append text tail)⟩
  rcases List.prefix_or_prefix_of_prefix hlong (List.prefix_append text tail) with
    hshort | ⟨rest, rfl⟩
  · exact hshort
  · -- the part of the occurrence behind the text would stand in the tail
    have hrest : rest <+: tail := (List.prefix_append_right_inj text).mp hlong
    cases rest with
    | nil => simp
    | cons c rest =>
      have hc : c ∈ tail := hrest.subset List.mem_cons_self
      exact absurd hc (h c (List.mem_append_right text List.mem_cons_self))

/-- Nothing occurs in a text with which it shares no character. -/
theorem positions_of_disjoint (hne : needle ≠ []) (h : ∀ c ∈ needle, c ∉ tail) :
    positions needle tail = 0 := by
  rw [positions, List.countP_eq_zero]
  intro i _ hoccurs
  obtain ⟨c, hc⟩ := List.exists_mem_of_ne_nil needle hne
  have hdrop : c ∈ tail.drop i := (List.isPrefixOf_iff_prefix.mp hoccurs).subset hc
  exact h c hc (List.mem_of_mem_drop hdrop)

theorem positions_append (hne : needle ≠ []) (h : ∀ c ∈ needle, c ∉ tail) (text : List Char) :
    positions needle (text ++ tail) = positions needle text := by
  induction text with
  | nil => exact positions_of_disjoint hne h
  | cons c rest ih =>
    rw [List.cons_append, positions_cons, positions_cons, ih, ← List.cons_append,
      isPrefixOf_append h]

/-- A tail that shares no character with a text adds no occurrence of it. -/
theorem occurrences_append {needle tail : String} (h : ∀ c ∈ needle.toList, c ∉ tail.toList)
    (text : String) : occurrences needle (text ++ tail) = occurrences needle text := by
  by_cases hne : needle = ""
  · subst hne
    rfl
  · rw [occurrences_eq_positions hne, occurrences_eq_positions hne, String.toList_append,
      positions_append (by simpa using hne) h]

end Occurrences

/-! ### Rules -/

section Rules

variable {policy : EmptyPolicy} {text tail : String}

/-- Blanks and quotes behind a text do not change the value of a leaf that can be written. -/
theorem Leaf.value_append_fillers {l : Leaf} (h : (Token.leaf l).Renderable)
    (htail : ∀ c ∈ tail.toList, isFiller c = true) :
    l.value (Subject.ofText policy (text ++ tail)) = l.value (Subject.ofText policy text) := by
  -- no character is kept by the reader and one of the tail at once
  have hapart : ∀ c ∈ tail.toList, isFiller c ≠ false := by
    intro c hc
    rw [htail c hc]
    nofun
  have hdigits : ∀ c ∈ tail.toList, c.isDigit = false := fun c hc =>
    Bool.eq_false_iff.mpr fun hdigit => hapart c hc (clean_of_isDigit hdigit).1
  rw [Subject.ofText_append policy text hdigits]
  cases l with
  | number value => rfl
  | total => rfl
  | average => rfl
  | count needle =>
    have hneedle : ∀ c ∈ needle.toList, c ∉ tail.toList := fun c hc hmem =>
      hapart c hmem (Countable.clean h c hc).1
    show Except.ok (Value.clamp (occurrences needle (text ++ tail))) =
      Except.ok (Value.clamp (occurrences needle (Subject.ofText policy text).text))
    rw [occurrences_append hneedle, Subject.text_ofText]

theorem Operand.value_append_fillers {tokens : Operand} (h : ∀ t ∈ tokens, t.Renderable)
    (htail : ∀ c ∈ tail.toList, isFiller c = true) :
    Operand.value (Subject.ofText policy (text ++ tail)) tokens =
      Operand.value (Subject.ofText policy text) tokens :=
  value_congr fun l hl => Leaf.value_append_fillers (h (.leaf l) hl) htail

/-- A rule that can be written does not see blanks and quotes behind a text. -/
theorem Rule.check_append_fillers {rule : Rule} (h : rule.Renderable)
    (htail : ∀ c ∈ tail.toList, isFiller c = true) :
    check (Subject.ofText policy (text ++ tail)) rule =
      check (Subject.ofText policy text) rule := by
  rw [check, check, compare, compare, Operand.value_append_fillers h.left htail,
    Operand.value_append_fillers h.right htail]

end Rules

/-! ### Commands -/

namespace Logged

variable {α β ε : Type}

/-- Only the value that was found decides how a computation goes on. -/
theorem bind_congr {x : Logged α} {f g : α → Logged β} (h : f x.value = g x.value) :
    x >>= f = x >>= g := by
  apply ext
  · rw [value_bind, value_bind, h]
  · rw [records_bind, records_bind, h]

/-- Two ways of working through a list are the same if they treat its members alike. -/
theorem forEach_congr {f g : α → Logged (Except ε β)} {xs : List α} (h : ∀ x ∈ xs, f x = g x) :
    forEach f xs = forEach g xs := by
  induction xs with
  | nil => rfl
  | cons x rest ih =>
    rw [List.forall_mem_cons] at h
    rw [forEach, forEach, h.1, ih h.2]

end Logged

namespace Command

/-- **Blanks and quotes behind a text are not seen** by any list of rules, whether they can be read
    or not: the verdicts, the failure and the log records are the same. -/
theorem check_append_fillers (policy : EmptyPolicy) (texts : List String) (input : String)
    {tail : String} (htail : ∀ c ∈ tail.toList, isFiller c = true) :
    check policy texts (some (input ++ tail)) = check policy texts (some input) := by
  apply Logged.bind_congr
  cases hread : (Logged.forEach parse texts).value with
  | error cause => rfl
  | ok rules =>
    have hall : Rule.checkAllText policy (input ++ tail) rules =
        Rule.checkAllText policy input rules := by
      refine Logged.forEach_congr fun rule hrule => ?_
      obtain ⟨text, -, hparse⟩ :=
        exists_of_map_eq_map_ok (value_forEach_parse_eq_ok_iff.mp hread) hrule
      exact Rule.check_append_fillers (Rule.renderable_of_parse hparse) htail
    dsimp only
    rw [hall]

end Command

/-! ### The program -/

namespace Program

theorem isFiller_of_isLineEnd {c : Char} (h : isLineEnd c = true) : isFiller c = true := by
  rw [isLineEnd, Bool.or_eq_true, beq_iff_eq, beq_iff_eq] at h
  rcases h with rfl | rfl <;> decide

/-- Only line ends are taken off. -/
theorem exists_lineEnds (text : String) :
    ∃ lineEnds, (∀ c ∈ lineEnds.toList, isLineEnd c = true) ∧
      trimLineEnds text ++ lineEnds = text := by
  refine ⟨String.ofList (text.toList.rtakeWhile isLineEnd), ?_, ?_⟩
  · intro c hc
    rw [String.toList_ofList] at hc
    exact List.mem_rtakeWhile_imp hc
  · apply String.toList_inj.mp
    rw [String.toList_append, trimLineEnds, String.toList_ofList, String.toList_ofList]
    exact List.rdropWhile_append_rtakeWhile

/-- What is piped to a check is checked as if it had been given, with its line ends. -/
theorem perform_check_stdin {inputs : Inputs} {bytes : ByteArray} {text : String}
    (hstdin : inputs.stdin = some (.ok bytes)) (hdecode : decode bytes = .ok text)
    (policy : EmptyPolicy) (pretty : Bool) (rules : List String) :
    perform inputs policy pretty (.check rules none) =
      perform inputs policy pretty (.check rules (some text)) := by
  have hread : readInput inputs none = .ok (some (trimLineEnds text)) := by
    unfold readInput
    rw [hstdin]
    show Except.map _ ((decode bytes).mapError _) = _
    rw [hdecode]
    rfl
  obtain ⟨lineEnds, hends, htext⟩ := exists_lineEnds text
  have hcheck := Command.check_append_fillers policy rules (trimLineEnds text)
    fun c hc => isFiller_of_isLineEnd (hends c hc)
  rw [htext] at hcheck
  rw [perform, perform, hread]
  dsimp only [readInput]
  rw [hcheck]

/-- **A check is the same for a given and for a piped text.** Line ends behind a text never change
    what rules come to, under either policy: neither the verdicts nor the failure nor the log
    records.  So the program has the same outcome for a text on its standard input, from which it
    takes the line ends, as for the same text as an argument, from which it does not. -/
theorem check_ignores_line_ends (rules : List String) :
    (∀ (policy : EmptyPolicy) (input lineEnds : String),
      (∀ c ∈ lineEnds.toList, isLineEnd c = true) →
      Command.check policy rules (some (input ++ lineEnds)) =
        Command.check policy rules (some input)) ∧
    ∀ (environment : Environment) (inputs : Inputs) (invocation : Arguments.Invocation)
      (bytes : ByteArray) (text : String),
      inputs.stdin = some (.ok bytes) → decode bytes = .ok text →
      execute environment inputs { invocation with task := .check rules none } =
        execute environment inputs { invocation with task := .check rules (some text) } := by
  constructor
  · intro policy input lineEnds hends
    exact Command.check_append_fillers policy rules input
      fun c hc => isFiller_of_isLineEnd (hends c hc)
  · intro environment inputs invocation bytes text hstdin hdecode
    rw [execute, execute, perform_check_stdin hstdin hdecode]

theorem check_ignores_line_ends_behind_number :
    (Command.check .reject ["count('b1') = avgofallnumberfromstring"] (some ("1b1" ++ "\r\n")) =
      Command.check .reject ["count('b1') = avgofallnumberfromstring"] (some "1b1")) ∧
    (Command.check .reject ["count('b1') = avgofallnumberfromstring"] (some "1b1")).value =
      .ok [true] ∧
    execute ⟨none, none⟩ ⟨some (.ok "1b1\r\n".toUTF8), fun _ => .error .noSuchFile⟩
        ⟨.check ["count('b1') = avgofallnumberfromstring"] none, none, .reject, false⟩ =
      execute ⟨none, none⟩ ⟨some (.ok "1b1\r\n".toUTF8), fun _ => .error .noSuchFile⟩
        ⟨.check ["count('b1') = avgofallnumberfromstring"] (some "1b1\r\n"), none, .reject,
          false⟩ := by
  obtain ⟨hcheck, hexecute⟩ := check_ignores_line_ends ["count('b1') = avgofallnumberfromstring"]
  have hends : ∀ c ∈ "\r\n".toList, isLineEnd c = true := List.all_eq_true.mp (by decide)
  refine ⟨hcheck .reject "1b1" "\r\n" hends, by decide +kernel, ?_⟩
  exact hexecute _ _ ⟨.overview, none, .reject, false⟩ _ "1b1\r\n" rfl (by decide +kernel)

end Program

end TextRules
