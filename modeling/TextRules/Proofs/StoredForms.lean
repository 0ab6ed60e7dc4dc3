import TextRules.Proofs.JsonDocuments
import TextRules.Proofs.Words
import TextRules.Stored.Entry
import TextRules.Stored.Settings

namespace TextRules

/-!
# Stored forms are read again

Rules are stored as JSON documents whose tokens are words: the name of a combinator or of a
statistic, the digits of a number, or the mark of a count with the counted text behind it.

* `Token.ofText?_text` — the word of a proper token is read as this token.
* `Stored.readRule_draft`, `Stored.readEntry_draft` — what was written is read.
* `Stored.proper_of_readRule`, `Stored.proper_of_readEntry` — what is read has proper tokens only,
  in whatever way the document is laid out, so that it can be written and read again.
* `Stored.stored_forms_round_trip` — both together, from text to text, for every kind of stored
  data.

A token is proper (`Token.Proper`) if its number is not negative and its counted text not empty.
-/

/-! ### Words of tokens -/

namespace Token

/-- A text with the mark of a count in front is no fixed word. -/
theorem ofKeyword?_count (needle : String) : ofKeyword? (countKeyword ++ "-" ++ needle) = none := by
  have hfixed : ∀ fixed : String, ¬(countKeyword ++ "-").toList <+: fixed.toList →
      countKeyword ++ "-" ++ needle ≠ fixed := by
    rintro fixed hfixed rfl
    exact hfixed ⟨needle.toList, by simp⟩
  unfold ofKeyword?
  cases hf : Combinator.ofKeyword? (countKeyword ++ "-" ++ needle) with
  | some f =>
    have hkeyword : ¬(countKeyword ++ "-").toList <+: f.keyword.toList := by cases f <;> decide
    exact absurd (Combinator.keyword_of_ofKeyword? hf).symm (hfixed _ hkeyword)
  | none => rw [if_neg (hfixed _ (by decide)), if_neg (hfixed _ (by decide))]

/-- The text after the mark of a count is what was put there. -/
theorem countedText?_count {needle : String} (hne : needle ≠ "") :
    countedText? (countKeyword ++ "-" ++ needle).toList = some needle.toList := by
  have hlength : 0 < needle.toList.length := by
    rw [List.length_pos_iff]
    simpa using hne
  rw [String.toList_append, countedText?, if_pos, List.drop_left]
  rw [List.isPrefixOf_iff_prefix, List.length_append]
  exact ⟨List.prefix_append _ _, by omega⟩

/-- Digits have no mark of a count in front. -/
theorem countedText?_of_isDecimal {word : List Char} (h : isDecimal word = true) :
    countedText? word = none := by
  rw [countedText?, if_neg]
  rw [List.isPrefixOf_iff_prefix]
  rintro ⟨⟨rest, rfl⟩, -⟩
  -- the mark starts with a letter
  have hdigit := (isDecimal_iff.mp h).2 'c' (by simp [countKeyword])
  cases hdigit

/-- **The stored form of a proper token is read as this token.** -/
theorem ofText?_text {t : Token} (h : t.Proper) : ofText? t.text = some t := by
  cases t with
  | call f => cases f <;> decide
  | leaf l =>
    cases l with
    | number value =>
      have hdecimal : isDecimal value.text.toList = true := by
        rw [Value.toList_text h]
        exact isDecimal_decimal _
      have hkeyword := ofKeyword?_of_isDecimal hdecimal
      rw [String.ofList_toList] at hkeyword
      rw [text, Leaf.text, ofText?, hkeyword, countedText?_of_isDecimal hdecimal,
        number?_toList_text h]
      rfl
    | count needle =>
      rw [text, Leaf.text, ofText?, ofKeyword?_count, countedText?_count h]
      simp
    | total => decide
    | average => decide

end Token

/-- Whether all tokens of a rule are proper. -/
def Rule.Proper (rule : Rule) : Prop := (∀ t ∈ rule.left, t.Proper) ∧ ∀ t ∈ rule.right, t.Proper

/-! ### Reading what was written -/

namespace Stored

open Json (Draft Document)

theorem readString_draft (s : String) : readString (Json.str s).draft = .ok s := rfl

/-- A list is read if its items are. -/
theorem readList_draft {α : Type} {read : Draft → Except ReadError α} {write : α → Json}
    {xs : List α} (h : ∀ x ∈ xs, read (write x).draft = .ok x) :
    readList read (Json.arr (xs.map write)).draft = .ok xs := by
  rw [Json.draft, Json.draftItems_eq_map, List.map_map, readList, (collects_mapM read _).ok_iff,
    List.map_map]
  exact List.map_congr_left h

theorem readToken_draft {t : Token} (h : t.Proper) : readToken (writeToken t).draft = .ok t := by
  have hword := Token.ofText?_text h
  simp only [readToken, writeToken, readString_draft, bind, Except.bind, hword]

theorem readOperand_draft {tokens : Operand} (h : ∀ t ∈ tokens, t.Proper) :
    readOperand (writeOperand tokens).draft = .ok tokens :=
  readList_draft fun t ht => readToken_draft (h t ht)

theorem readRelation_draft (r : Relation) : readRelation (writeRelation r).draft = .ok r := by
  cases r <;> rfl

/-- The members of a stored rule are its three parts. -/
theorem readMembers_ruleMembers {rule : Rule} (h : rule.Proper) :
    readMembers RuleParts.put .empty (Json.draftMembers (ruleMembers rule)) =
      .ok ⟨some rule.left, some rule.relation, some rule.right⟩ := by
  simp only [ruleMembers, Json.draftMembers, readMembers, List.foldlM_cons, List.foldlM_nil,
    RuleParts.put, RuleParts.empty, readOnce, readOperand_draft h.1, readOperand_draft h.2,
    readRelation_draft, Except.map, bind, Except.bind, pure, Except.pure]

theorem readRule_draft {rule : Rule} (h : rule.Proper) :
    readRule (writeRule rule).draft = .ok rule := by
  rw [writeRule, Json.draft, readRule, readMembers_ruleMembers h]
  rfl

theorem readRules_draft {rules : List Rule} (h : ∀ rule ∈ rules, rule.Proper) :
    readRules (writeRules rules).draft = .ok rules :=
  readList_draft fun rule hrule => readRule_draft (h rule hrule)

theorem readTexts_draft (texts : List String) :
    readTexts (Json.arr (texts.map Json.str)).draft = .ok texts :=
  readList_draft fun text _ => readString_draft text

theorem readId_draft (id : RuleId) : readId (writeId id).draft = .ok id := by
  have hnumber : (Json.Number.ofInt id.toNat).nat? = some id.toNat := by
    simp [Json.Number.ofInt, Json.Number.nat?]
  rw [writeId, Json.draft, readId, hnumber]
  show (if id.toNat < UInt64.size then _ else _) = _
  rw [if_pos id.toNat_lt_size, UInt64.ofNat_toNat]

/-- Operands can be kept for later, since they are lists of strings. -/
theorem keepable_writeOperand (tokens : Operand) :
    (writeOperand tokens).draft.keepable EntryParts.deepest = true := by
  rw [writeOperand, Json.draft, Json.draftItems_eq_map, EntryParts.deepest, Draft.keepable]
  induction tokens with
  | nil => rfl
  | cons t rest ih => exact ih

/-- An entry keeps every member but its id and its owner for later. -/
theorem EntryParts.put_of_ne (parts : EntryParts) {name : String} {value : Draft}
    (hid : name ≠ "id") (howner : name ≠ "owner")
    (hvalue : value.keepable EntryParts.deepest = true) :
    parts.put name value = .ok { parts with kept := (some name, value) :: parts.kept } := by
  rw [EntryParts.put.eq_3 parts name value hid howner, if_pos hvalue]

theorem keepMembers_ruleMembers (parts : EntryParts) (rule : Rule) :
    readMembers EntryParts.put parts (Json.draftMembers (ruleMembers rule)) =
      .ok { parts with
        kept := (Json.draftMembers (ruleMembers rule)).reverse ++ parts.kept } := by
  have hrelation : (writeRelation rule.relation).draft.keepable EntryParts.deepest = true := rfl
  have hput1 (parts : EntryParts) := parts.put_of_ne (by decide : "operand1" ≠ "id") (by decide)
    (keepable_writeOperand rule.left)
  have hput2 (parts : EntryParts) := parts.put_of_ne (by decide : "operator" ≠ "id") (by decide)
    hrelation
  have hput3 (parts : EntryParts) := parts.put_of_ne (by decide : "operand2" ≠ "id") (by decide)
    (keepable_writeOperand rule.right)
  simp only [ruleMembers, Json.draftMembers, readMembers, List.foldlM_cons, List.foldlM_nil, hput1,
    hput2, hput3, bind, Except.bind, pure, Except.pure]
  rfl

theorem readEntry_draft {entry : Entry} (h : entry.rule.Proper) :
    readEntry (writeEntry entry).draft = .ok entry := by
  -- the id and the owner are read at once, the rule only after all members are known
  have hhead : ∀ members, readMembers EntryParts.put .empty
      ((some "id", (writeId entry.id).draft) :: (some "owner", .str (some entry.owner)) ::
        members) =
      readMembers EntryParts.put ⟨some entry.id, some entry.owner, []⟩ members := by
    intro members
    simp only [readMembers, List.foldlM_cons, EntryParts.put, EntryParts.empty, readOnce,
      readId_draft, readString, Except.map, bind, Except.bind]
  have hrule : EntryParts.entry ⟨some entry.id, some entry.owner,
      (Json.draftMembers (ruleMembers entry.rule)).reverse ++ []⟩ = .ok entry := by
    simp only [EntryParts.entry, require, List.append_nil, List.reverse_reverse,
      readMembers_ruleMembers h, RuleParts.rule, bind, Except.bind, pure, Except.pure]
  show (readMembers EntryParts.put .empty ((some "id", (writeId entry.id).draft) ::
    (some "owner", .str (some entry.owner)) :: Json.draftMembers (ruleMembers entry.rule))).bind
      EntryParts.entry = _
  rw [hhead, keepMembers_ruleMembers]
  exact hrule

theorem readSettings_draft (policy : EmptyPolicy) :
    readSettings (writeSettings policy).draft = .ok policy := by
  cases policy <;> rfl

/-! ### What is read is proper -/

theorem readOnce_eq_ok {α : Type} {name : String} {read : Draft → Except ReadError α}
    {old found : Option α} {value : Draft} (h : readOnce name read old value = .ok found) :
    ∃ a, found = some a ∧ read value = .ok a := by
  cases old with
  | some _ => cases h
  | none =>
    obtain ⟨a, ha, rfl⟩ := map_eq_ok_iff.mp h
    exact ⟨a, rfl, ha⟩

theorem require_eq_ok {α : Type} {name : String} {found : Option α} {a : α}
    (h : require name found = .ok a) : found = some a := by
  cases found with
  | none => cases h
  | some b => rw [Except.ok.inj h]

/-- What the reading of one member keeps holds when all members have been read. -/
theorem readMembers_invariant {σ : Type} {put : σ → String → Draft → Except ReadError σ}
    {P : σ → Prop} (hput : ∀ s name value next, put s name value = .ok next → P s → P next)
    {start last : σ} {members : List (Option String × Draft)}
    (h : readMembers put start members = .ok last) (hstart : P start) : P last := by
  induction members generalizing start with
  | nil => exact Except.ok.inj h ▸ hstart
  | cons member rest ih =>
    obtain ⟨next, hnext, hrest⟩ := bind_eq_ok_iff.mp h
    refine ih hrest ?_
    obtain ⟨_ | name, value⟩ := member
    -- a member whose name is no text is never read
    · cases hnext
    · exact hput start name value next hnext hstart

theorem proper_of_readToken {d : Draft} {t : Token} (h : readToken d = .ok t) : t.Proper := by
  obtain ⟨word, -, hword⟩ := bind_eq_ok_iff.mp h
  split at hword
  next hsome =>
    cases hword
    exact Token.proper_of_ofText? hsome
  next => cases hword

/-- The members of a list that was read were read. -/
theorem of_mem_readList {α : Type} {read : Draft → Except ReadError α} {d : Draft} {xs : List α}
    (h : readList read d = .ok xs) {x : α} (hx : x ∈ xs) : ∃ item, read item = .ok x := by
  cases d with
  | arr items =>
    have hmem : Except.ok x ∈ items.map read := by
      rw [((collects_mapM read items).ok_iff xs).mp h]
      exact List.mem_map_of_mem hx
    obtain ⟨item, -, hitem⟩ := List.mem_map.mp hmem
    exact ⟨item, hitem⟩
  | _ => cases h

theorem proper_of_readOperand {d : Draft} {tokens : Operand} (h : readOperand d = .ok tokens) :
    ∀ t ∈ tokens, t.Proper := by
  intro t ht
  obtain ⟨item, hitem⟩ := of_mem_readList h ht
  exact proper_of_readToken hitem

/-- Whether the operands among some parts of a rule have proper tokens. -/
def RuleParts.Proper (parts : RuleParts) : Prop :=
  (∀ tokens ∈ parts.left, ∀ t ∈ tokens, t.Proper) ∧
    ∀ tokens ∈ parts.right, ∀ t ∈ tokens, t.Proper

theorem RuleParts.Proper.put {parts next : RuleParts} {name : String} {value : Draft}
    (h : parts.put name value = .ok next) (hparts : parts.Proper) : next.Proper := by
  unfold RuleParts.put at h
  split at h
  · obtain ⟨found, hfound, rfl⟩ := map_eq_ok_iff.mp h
    obtain ⟨tokens, rfl, hread⟩ := readOnce_eq_ok hfound
    refine ⟨?_, hparts.2⟩
    rintro _ ⟨⟩
    exact proper_of_readOperand hread
  · obtain ⟨found, -, rfl⟩ := map_eq_ok_iff.mp h
    exact hparts
  · obtain ⟨found, hfound, rfl⟩ := map_eq_ok_iff.mp h
    obtain ⟨tokens, rfl, hread⟩ := readOnce_eq_ok hfound
    refine ⟨hparts.1, ?_⟩
    rintro _ ⟨⟩
    exact proper_of_readOperand hread
  · unfold skip at h
    split at h
    · exact Except.ok.inj h ▸ hparts
    · cases h

/-- Members that make up a rule make up a proper one. -/
theorem proper_of_readMembers {members : List (Option String × Draft)} {parts : RuleParts}
    {rule : Rule} (hparts : readMembers RuleParts.put .empty members = .ok parts)
    (hrule : parts.rule = .ok rule) : rule.Proper := by
  have hproper : parts.Proper :=
    readMembers_invariant (fun _ _ _ _ hput h => RuleParts.Proper.put hput h) hparts
      ⟨nofun, nofun⟩
  obtain ⟨left, hleft, hrule⟩ := bind_eq_ok_iff.mp hrule
  obtain ⟨relation, -, hrule⟩ := bind_eq_ok_iff.mp hrule
  obtain ⟨right, hright, hrule⟩ := bind_eq_ok_iff.mp hrule
  cases hrule
  exact ⟨hproper.1 left (require_eq_ok hleft), hproper.2 right (require_eq_ok hright)⟩

theorem proper_of_readRule {d : Draft} {rule : Rule} (h : readRule d = .ok rule) :
    rule.Proper := by
  cases d with
  | obj members =>
    obtain ⟨parts, hparts, hrule⟩ := bind_eq_ok_iff.mp h
    exact proper_of_readMembers hparts hrule
  | arr items =>
    obtain ⟨left, hleft, h⟩ := bind_eq_ok_iff.mp h
    obtain ⟨relation, -, h⟩ := bind_eq_ok_iff.mp h
    obtain ⟨right, hright, h⟩ := bind_eq_ok_iff.mp h
    split at h
    · cases h
      exact ⟨proper_of_readOperand hleft, proper_of_readOperand hright⟩
    · cases h
  | _ => cases h

theorem proper_of_readEntry {d : Draft} {entry : Entry} (h : readEntry d = .ok entry) :
    entry.rule.Proper := by
  cases d with
  | obj members =>
    obtain ⟨parts, -, h⟩ := bind_eq_ok_iff.mp h
    obtain ⟨id, -, h⟩ := bind_eq_ok_iff.mp h
    obtain ⟨owner, -, h⟩ := bind_eq_ok_iff.mp h
    obtain ⟨kept, hkept, h⟩ := bind_eq_ok_iff.mp h
    obtain ⟨rule, hrule, h⟩ := bind_eq_ok_iff.mp h
    cases h
    exact proper_of_readMembers hkept hrule
  | _ => cases h

/-! ### Round trips -/

/-- Reads a stored form and writes what it holds. -/
def restore {α : Type} (read : Draft → Except ReadError α) (write : α → Json) (text : String) :
    Except ReadError String :=
  (fromText read text).map fun a => (write a).compact

/-- A kind of stored data goes to text and back.  What is fit for it is read as it was written, and
    whatever is read from any text is fit for it.  What comes from restoring a text is then
    restored as it stands. -/
structure RoundTrips {α : Type} (read : Draft → Except ReadError α) (write : α → Json)
    (Fit : α → Prop) : Prop where
  read_written : ∀ a, Fit a → fromText read (write a).compact = .ok a
  fit_of_read : ∀ text a, fromText read text = .ok a → Fit a
  restore_restored : ∀ text stored, restore read write text = .ok stored →
    restore read write stored = .ok stored

/-- The data of a written text are those of the draft. -/
theorem fromText_compact {α : Type} {read : Draft → Except ReadError α} {json : Json} {a : α}
    (h : read json.draft = .ok a) : fromText read json.compact = .ok a := by
  rw [fromText, Json.ofText_compact, h]
  rfl

/-- It is enough to look at drafts, since a written text is read to its end. -/
theorem RoundTrips.of_draft {α : Type} {read : Draft → Except ReadError α} {write : α → Json}
    {Fit : α → Prop} (hwritten : ∀ a, Fit a → read (write a).draft = .ok a)
    (hread : ∀ d a, read d = .ok a → Fit a) : RoundTrips read write Fit := by
  have hfit : ∀ text a, fromText read text = .ok a → Fit a := by
    intro text a h
    obtain ⟨b, hb, h⟩ := bind_eq_ok_iff.mp h
    split at h
    · cases h
      exact hread _ _ hb
    · cases h
  refine ⟨fun a ha => fromText_compact (hwritten a ha), hfit, fun text stored h => ?_⟩
  obtain ⟨a, ha, rfl⟩ := map_eq_ok_iff.mp h
  rw [restore, fromText_compact (hwritten a (hfit text a ha))]
  rfl

/-- **Stored forms are read again.** Rules, lists of rules and the entries of a book are read as
    they were written whenever their tokens are proper, and what is read from any document has
    proper tokens; tokens, relations, settings and ids on their own are stored in the same way.
    Restoring a document that was restored before changes nothing. -/
theorem stored_forms_round_trip :
    RoundTrips readRule writeRule Rule.Proper ∧
    RoundTrips readRules writeRules (fun rules => ∀ rule ∈ rules, rule.Proper) ∧
    RoundTrips readEntry writeEntry (fun entry => entry.rule.Proper) ∧
    RoundTrips readToken writeToken Token.Proper ∧
    RoundTrips readRelation writeRelation (fun _ => True) ∧
    RoundTrips readSettings writeSettings (fun _ => True) ∧
    RoundTrips readId writeId (fun _ => True) := by
  refine ⟨?_, ?_, ?_, ?_, ?_, ?_, ?_⟩
  · exact .of_draft (fun _ => readRule_draft) fun _ _ => proper_of_readRule
  · refine .of_draft (fun _ => readRules_draft) fun d rules h rule hrule => ?_
    obtain ⟨item, hitem⟩ := of_mem_readList h hrule
    exact proper_of_readRule hitem
  · exact .of_draft (fun _ => readEntry_draft) fun _ _ => proper_of_readEntry
  · exact .of_draft (fun _ => readToken_draft) fun _ _ => proper_of_readToken
  · exact .of_draft (fun r _ => readRelation_draft r) fun _ _ _ => trivial
  · exact .of_draft (fun policy _ => readSettings_draft policy) fun _ _ _ => trivial
  · exact .of_draft (fun id _ => readId_draft id) fun _ _ _ => trivial

end Stored

end TextRules
