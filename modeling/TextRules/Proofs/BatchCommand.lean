import TextRules.CommandLine.Command
import TextRules.Proofs.Batches
import TextRules.Proofs.Reading
import TextRules.Proofs.Requests
import TextRules.Proofs.StoredForms

namespace TextRules

/-!
# The two commands that check rules

Rules are checked as they are given, or read from a stored form first and kept in a registry of
their own.

* `RuleBook.entries_foldl_add` — rules that are added one after the other stand in this order,
  under ids that count them.
* `Registry.collects_check_batchRegistry` — what a registry made of some rules answers.
* `Command.value_check`, `Command.value_batch` — what is left of the commands once the texts have
  been read.
* `Command.firstFault_batchRegistry_iff` — the registry of a batch fails first where the first
  command does.
* `Command.batch_follows_check` — the second command is the first one for each input, and tells
  which rule could not be evaluated.
-/

/-- Rules are checked against a text one by one. -/
theorem Rule.collects_checkAllText (policy : EmptyPolicy) (text : String) (rules : List Rule) :
    Collects (rules.map fun rule => (checkText policy text rule).value)
      (checkAllText policy text rules).value :=
  Logged.collects_forEach (check (Subject.ofText policy text)) rules

/-! ### Rules under their numbers -/

namespace RuleBook

/-- Rules that are added one after the other stand at the end, in their order and under the ids
    that follow the last one. -/
theorem entries_foldl_add {book : RuleBook} (h : book.Reachable) (owner : String)
    (rules : List Rule) (hleft : book.lastId.toNat + rules.length < 2 ^ 64) :
    (rules.foldl (fun book rule => (book.add owner rule).2) book).entries =
      book.entries ++ (rules.zipIdx book.lastId.toNat).map fun (rule, position) =>
        ⟨UInt64.ofNat (position + 1), owner, rule⟩ := by
  induction rules generalizing book with
  | nil => simp
  | cons rule rest ih =>
    rw [List.length_cons] at hleft
    have hroom : book.lastId.toNat + 1 < 2 ^ 64 := by omega
    have hnext : (book.add owner rule).2.Reachable := h.perform (.add owner rule) fun _ => hroom
    have hlast : (book.add owner rule).2.lastId.toNat = book.lastId.toNat + 1 := by
      show (book.lastId + 1).toNat = _
      rw [UInt64.toNat_add]
      exact Nat.mod_eq_of_lt hroom
    have hid : book.lastId + 1 = UInt64.ofNat (book.lastId.toNat + 1) := by
      rw [UInt64.ofNat_add, UInt64.ofNat_toNat]
      rfl
    rw [List.foldl_cons, ih hnext (by omega), entries_add (h.id_lt_next hroom), hlast,
      List.append_assoc, List.zipIdx_cons, List.map_cons, hid]
    rfl

end RuleBook

namespace Registry

open Command (batchRegistry batchOwner)

/-- The rules of a batch are numbered from one. -/
theorem rulesOf_batchRegistry (policy : EmptyPolicy) {rules : List Rule}
    (hcount : rules.length < 2 ^ 64) :
    (batchRegistry policy rules).rulesOf batchOwner =
      rules.mapIdx fun place rule => ⟨UInt64.ofNat (place + 1), batchOwner, rule⟩ := by
  have hentries := RuleBook.entries_foldl_add .empty batchOwner rules (by simpa [RuleBook.empty])
  show List.filter _ (rules.foldl _ RuleBook.empty).entries = _
  rw [hentries, List.mapIdx_eq_zipIdx_map]
  show List.filter _ ([] ++ rules.zipIdx.map _) = _
  rw [List.nil_append, List.filter_eq_self]
  intro entry hentry
  obtain ⟨⟨rule, place⟩, -, rfl⟩ := List.mem_map.mp hentry
  exact decide_eq_true rfl

/-- A registry of numbered rules answers what the rules come to, and tells the number of the first
    rule that fails. -/
theorem check_batchRegistry (policy : EmptyPolicy) {rules : List Rule}
    (hcount : rules.length < 2 ^ 64) (text : String) :
    (∀ verdicts, ((batchRegistry policy rules).check batchOwner text).value = .ok verdicts ↔
      (Rule.checkAllText policy text rules).value = .ok verdicts) ∧
    ∀ refusal, ((batchRegistry policy rules).check batchOwner text).value = .error refusal ↔
      ∃ place rule cause,
        FirstFault (fun rule => (Rule.checkText policy text rule).value) rules place rule cause ∧
        refusal = .notEvaluable (UInt64.ofNat (place + 1)) cause := by
  have htold := (batchRegistry policy rules).collects_check batchOwner text
  rw [rulesOf_batchRegistry policy hcount] at htold
  exact (Rule.collects_checkAllText policy text rules).numbered (by intro place rule; rfl) htold

end Registry

/-- A rule that was read from a text has proper tokens. -/
theorem Rule.proper_of_parse {text : String} {rule : Rule} (h : Rule.parse text = .ok rule) :
    rule.Proper := by
  obtain ⟨-, left, right, -, -, hleft, hright⟩ := parse_eq_ok_iff.mp h
  exact ⟨fun _ => Operand.proper_of_read (Operand.parse_eq_ok_iff.mp hleft).1,
    fun _ => Operand.proper_of_read (Operand.parse_eq_ok_iff.mp hright).1⟩

theorem Rule.forall_proper_of_parse {texts : List String} {rules : List Rule}
    (h : texts.map parse = rules.map .ok) : ∀ rule ∈ rules, rule.Proper := by
  intro rule hrule
  obtain ⟨text, -, htext⟩ := exists_of_map_eq_map_ok h hrule
  exact proper_of_parse htext

/-! ### The two commands -/

namespace Command

variable {texts : List String} {rules : List Rule}

/-- The rules of the first command are those that are read from its texts. -/
theorem value_forEach_parse_eq_ok_iff :
    (Logged.forEach parse texts).value = .ok rules ↔ texts.map Rule.parse = rules.map .ok := by
  rw [(Logged.collects_forEach parse texts).ok_iff]
  refine map_eq_map_ok_congr fun text rule => ?_
  rw [parse, Logged.value_map, Rule.value_read, mapError_eq_ok_iff]

/-- Once its rules have been read, the first command only checks them. -/
theorem value_check (policy : EmptyPolicy) (hparse : texts.map Rule.parse = rules.map .ok)
    (input : String) :
    (check policy texts (some input)).value =
      (Rule.checkAllText policy input rules).value.mapError .notEvaluable := by
  rw [check, Logged.value_bind, value_forEach_parse_eq_ok_iff.mpr hparse]
  rfl

/-- Once its documents have been read, the second command only asks the registry. -/
theorem value_batch (policy : EmptyPolicy) (hproper : ∀ rule ∈ rules, rule.Proper)
    (inputs : List String) :
    (batch policy (Stored.writeRules rules).compact
        (some (Json.arr (inputs.map Json.str)).compact)).value =
      ((batchRegistry policy rules).checkAll batchOwner inputs).value.mapError .refused := by
  rw [batch, Stored.fromText_compact (Stored.readRules_draft hproper)]
  simp only [Stored.fromText_compact (Stored.readTexts_draft inputs), Logged.value_map]

/-- The registry of a batch has the same verdicts on a text as the first command. -/
theorem check_batchRegistry_eq_ok_iff (policy : EmptyPolicy)
    (hparse : texts.map Rule.parse = rules.map .ok) (hcount : rules.length < 2 ^ 64)
    (input : String) (row : List Bool) :
    ((batchRegistry policy rules).check batchOwner input).value = .ok row ↔
      (check policy texts (some input)).value = .ok row := by
  rw [value_check policy hparse, mapError_eq_ok_iff]
  exact (Registry.check_batchRegistry policy hcount input).1 row

/-- The registry of a batch fails first where the first command does, for the same cause, and tells
    the number of the rule that fails. -/
theorem firstFault_batchRegistry_iff (policy : EmptyPolicy)
    (hparse : texts.map Rule.parse = rules.map .ok) (hcount : rules.length < 2 ^ 64)
    {inputs : List String} {place : Nat} {input : String} {refusal : Refusal} :
    FirstFault (fun input => ((batchRegistry policy rules).check batchOwner input).value)
        inputs place input refusal ↔
      ∃ rulePlace rule cause,
        FirstFault (fun input => (check policy texts (some input)).value)
          inputs place input (.notEvaluable cause) ∧
        FirstFault (fun rule => (Rule.checkText policy input rule).value)
          rules rulePlace rule cause ∧
        refusal = .notEvaluable (UInt64.ofNat (rulePlace + 1)) cause := by
  have hsame := check_batchRegistry_eq_ok_iff policy hparse hcount
  have htold := (Registry.check_batchRegistry policy hcount input).2 refusal
  constructor
  · intro h
    obtain ⟨rulePlace, rule, cause, hrule, rfl⟩ := htold.mp h.fault
    have hcause : (check policy texts (some input)).value = .error (.notEvaluable cause) := by
      rw [value_check policy hparse, (Rule.collects_checkAllText policy input
        rules).error_iff_firstFault.mpr ⟨rulePlace, rule, hrule⟩, mapError_error]
    exact ⟨rulePlace, rule, cause, h.of_same_values hsame hcause, hrule, rfl⟩
  · rintro ⟨rulePlace, rule, cause, h, hrule, rfl⟩
    exact h.of_same_values (fun input row => (hsame input row).symm)
      (htold.mpr ⟨rulePlace, rule, cause, hrule, rfl⟩)

/-- **Both commands agree.** Rules that have been read and stored are checked like their texts: the
    second command gives what the first one gives for each input in turn.  It fails exactly if the
    first one fails for some input; for the first such input, it tells the same cause and the
    number of the first rule that fails on it, counted from one.  Numbers of rules have 64 bits. -/
theorem batch_follows_check (policy : EmptyPolicy)
    (hparse : texts.map Rule.parse = rules.map .ok) (hcount : rules.length < 2 ^ 64)
    (inputs : List String) :
    let single (input : String) := (check policy texts (some input)).value
    let verdict (input : String) (rule : Rule) := (Rule.checkText policy input rule).value
    let answer := (batch policy (Stored.writeRules rules).compact
      (some (Json.arr (inputs.map Json.str)).compact)).value
    ((∃ rows, answer = .ok rows) ↔ ∀ input ∈ inputs, ∃ row, single input = .ok row) ∧
    (∀ rows, answer = .ok rows ↔ inputs.map single = rows.map .ok) ∧
    ∀ failure, answer = .error failure ↔
      ∃ inputPlace input rulePlace rule cause id,
        FirstFault single inputs inputPlace input (.notEvaluable cause) ∧
        FirstFault (verdict input) rules rulePlace rule cause ∧
        failure = .refused (.notEvaluable id cause) ∧ id.toNat = rulePlace + 1 := by
  intro single verdict answer
  let registry := batchRegistry policy rules
  have hanswer : answer = (registry.checkAll batchOwner inputs).value.mapError .refused :=
    value_batch policy (Rule.forall_proper_of_parse hparse) inputs
  have hcollects := registry.collects_checkAll batchOwner inputs
  have hsame := check_batchRegistry_eq_ok_iff policy hparse hcount
  -- the rows follow from equal verdicts; a failure also has to be traced to its rule
  refine ⟨?_, fun rows => ?_, fun failure => ?_⟩
  · simp only [hanswer, mapError_eq_ok_iff, hcollects.exists_ok_iff, List.forall_mem_map]
    exact forall₂_congr fun input _ => exists_congr (hsame input)
  · rw [hanswer, mapError_eq_ok_iff, hcollects.ok_iff, map_eq_map_ok_congr hsame]
  · rw [hanswer, mapError_eq_error_iff]
    constructor
    · rintro ⟨refusal, hrefusal, rfl⟩
      obtain ⟨inputPlace, input, hfirst⟩ := hcollects.error_iff_firstFault.mp hrefusal
      obtain ⟨rulePlace, rule, cause, hinput, hrule, rfl⟩ :=
        (firstFault_batchRegistry_iff policy hparse hcount).mp hfirst
      -- the number fits into 64 bits, since it is a place in the list
      have hlt := (List.getElem?_eq_some_iff.mp hrule.at_place).1
      have hid := UInt64.toNat_ofNat_of_lt (show rulePlace + 1 < 2 ^ 64 by omega)
      exact ⟨inputPlace, input, rulePlace, rule, cause, _, hinput, hrule, rfl, hid⟩
    · rintro ⟨inputPlace, input, rulePlace, rule, cause, id, hinput, hrule, rfl, hid⟩
      have hnumber : id = UInt64.ofNat (rulePlace + 1) := by
        rw [← hid, UInt64.ofNat_toNat]
      have hfirst := (firstFault_batchRegistry_iff policy hparse hcount).mpr
        ⟨rulePlace, rule, cause, hinput, hrule, rfl⟩
      rw [← hnumber] at hfirst
      exact ⟨_, hcollects.error_iff_firstFault.mpr ⟨inputPlace, input, hfirst⟩, rfl⟩

theorem batch_follows_check_past_backslash :
    ∃ rules : List Rule,
      ["count('\\\"a') > 0", "avgofallnumberfromstring >= 1"].map Rule.parse = rules.map .ok ∧
      (batch .reject (Stored.writeRules rules).compact
        (some (Json.arr (["a1", "abba"].map Json.str)).compact)).value =
          .error (.refused (.notEvaluable 2 .noNumbers)) := by
  let counting : Rule := ⟨[.leaf (.count "\\a")], .gt, [.leaf (.number 0)]⟩
  let averaging : Rule := ⟨[.leaf .average], .ge, [.leaf (.number 1)]⟩
  have hparse : ["count('\\\"a') > 0", "avgofallnumberfromstring >= 1"].map Rule.parse =
      [counting, averaging].map .ok := by decide +kernel
  obtain ⟨-, -, hfails⟩ := batch_follows_check .reject hparse (by decide) ["a1", "abba"]
  refine ⟨_, hparse, (hfails _).mpr ⟨1, "abba", 1, averaging, .noNumbers, 2, ?_, ?_, rfl, rfl⟩⟩
  · refine ⟨rfl, ?_, fun earlier hearlier input hinput => ?_⟩
    · rw [value_check .reject hparse]
      decide +kernel
    · obtain rfl : earlier = 0 := by omega
      cases hinput
      rw [value_check .reject hparse]
      exact ⟨[false, true], by decide +kernel⟩
  · refine ⟨rfl, by decide +kernel, fun earlier hearlier rule hrule => ?_⟩
    obtain rfl : earlier = 0 := by omega
    cases hrule
    exact ⟨false, by decide +kernel⟩

end Command

end TextRules
