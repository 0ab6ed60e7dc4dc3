import TextRules.Proofs.Requests

namespace TextRules

/-!
# Changes to the rules that are held

A change stores, updates or deletes a rule.  What is told of it is the id of the rule and its owner.

* `Change.record_injective` — a change can be read off its record.
* `RuleBook.Follows` — how some changes lead from one book to another, as far as the ids tell.  No
  id is given out again, so the changes of two stretches can be put together
  (`RuleBook.Follows.trans`).
* `RuleBook.follows_add`, `RuleBook.follows_replace?`, `RuleBook.follows_remove?` — each action on a
  book is such a change.
-/

/-! ### Changes -/

/-- What can be done to a rule. -/
inductive Change.Kind
  | stored
  | updated
  | deleted
  deriving DecidableEq

/-- A change to the rules that are held: what was done, to which rule, and whose rule that is. -/
structure Change where
  kind : Change.Kind
  id : RuleId
  owner : String
  deriving DecidableEq

namespace Change

/-- The word for what was done. -/
def Kind.word : Kind → String
  | .stored => "Stored"
  | .updated => "Updated"
  | .deleted => "Deleted"

theorem Kind.eq_of_word {kind other : Kind} (h : kind.word.toList = other.word.toList) :
    kind = other := by
  revert h
  cases kind <;> cases other <;> decide

/-- Whether an id is held after a change, from whether it was held before. -/
def holdsAfter (id : RuleId) (held : Bool) (change : Change) : Bool :=
  match change.kind with
  | .stored => decide (id = change.id) || held
  | .updated => held
  | .deleted => decide (id ≠ change.id) && held

/-- The ids that some changes of one kind are about. -/
def idsOf (kind : Kind) (changes : List Change) : List RuleId :=
  (changes.filter fun change => change.kind = kind).map Change.id

theorem idsOf_append (kind : Kind) (first second : List Change) :
    idsOf kind (first ++ second) = idsOf kind first ++ idsOf kind second := by
  simp [idsOf]

/-! ### Records of changes -/

/-- The record of a change. -/
def record (change : Change) : Log.Record :=
  ⟨.info, .service, s!"{change.kind.word} rule {change.id.text} for {change.owner}"⟩

/-- A text is cut at the first blank in one way only. -/
theorem eq_of_append_blank {word other rest last : List Char} (hword : ' ' ∉ word)
    (hother : ' ' ∉ other) (h : word ++ ' ' :: rest = other ++ ' ' :: last) :
    word = other ∧ rest = last := by
  have hcut : ∀ {word : List Char} (rest : List Char), ' ' ∉ word →
      (word ++ ' ' :: rest).takeWhile (· ≠ ' ') = word := by
    intro word rest hword
    have hall : ∀ c ∈ word, decide (c ≠ ' ') = true := by
      intro c hc
      rw [decide_eq_true_eq]
      rintro rfl
      exact hword hc
    rw [List.takeWhile_append_of_pos hall, List.takeWhile_cons_of_neg (by simp), List.append_nil]
  have hsame : word = other := by
    rw [← hcut rest hword, h, hcut last hother]
  rw [hsame] at h
  exact ⟨hsame, (List.cons.inj (List.append_cancel_left h)).2⟩

theorem blank_notMem_decimal (n : Nat) : ' ' ∉ decimal n := by
  intro h
  have hdigit := (isDecimal_iff.mp (isDecimal_decimal n)).2 ' ' h
  cases hdigit

theorem toList_text_record (change : Change) : change.record.text.toList =
    change.kind.word.toList ++ ' ' :: ("rule".toList ++ ' ' :: (decimal change.id.toNat ++
      ' ' :: ("for".toList ++ ' ' :: change.owner.toList))) := by
  simp [record, RuleId.text, decimalText, toString]

/-- **A change can be read off its record.** -/
theorem record_injective : Function.Injective record := by
  intro first second h
  have htext : first.record.text.toList = second.record.text.toList := by rw [h]
  rw [toList_text_record, toList_text_record] at htext
  have hword : ∀ kind : Kind, ' ' ∉ kind.word.toList := by
    intro kind
    cases kind <;> decide
  obtain ⟨hkind, htext⟩ := eq_of_append_blank (hword _) (hword _) htext
  obtain ⟨-, htext⟩ := eq_of_append_blank (by decide) (by decide) htext
  obtain ⟨hid, htext⟩ := eq_of_append_blank (blank_notMem_decimal _) (blank_notMem_decimal _) htext
  obtain ⟨-, howner⟩ := eq_of_append_blank (by decide) (by decide) htext
  have hid : first.id.toNat = second.id.toNat := by
    rw [← decimalValue_decimal first.id.toNat, hid, decimalValue_decimal]
  cases first
  cases second
  rw [mk.injEq]
  exact ⟨Kind.eq_of_word hkind, UInt64.toNat_inj.mp hid, String.toList_inj.mp howner⟩

end Change

/-! ### The ids of a book -/

namespace RuleBook

/-- The ids that are in use, in increasing order. -/
def ids (book : RuleBook) : List RuleId := book.entries.map Entry.id

variable {book mid next : RuleBook} {id : RuleId} {first second : List Change}

theorem ids_of_replace? {rule : Rule} {entry : Entry}
    (h : book.replace? id rule = some (entry, next)) : next.ids = book.ids := by
  rw [ids, entries_of_replace? h, List.map_map]
  refine List.map_congr_left fun e _ => ?_
  rw [Function.comp_apply]
  split <;> rfl

theorem ids_of_remove? {entry : Entry} (h : book.remove? id = some (entry, next)) :
    next.ids = book.ids.filter fun other => other ≠ id := by
  rw [ids, entries_of_remove? h, ids, List.filter_map]
  rfl

/-- A book comes from another one by some changes, as far as the ids tell: the ids in use are those
    that were in use with those of the rules that were stored, but for those of the rules that were
    deleted, and no id was given out again. -/
structure Follows (book : RuleBook) (changes : List Change) (next : RuleBook) : Prop where
  ids_eq : next.ids = (book.ids ++ Change.idsOf .stored changes).filter fun id =>
    id ∉ Change.idsOf .deleted changes
  lastId_le : book.lastId ≤ next.lastId
  stored_lt : ∀ id ∈ Change.idsOf .stored changes, book.lastId < id
  deleted_le : ∀ id ∈ Change.idsOf .deleted changes, id ≤ next.lastId

theorem Follows.refl (book : RuleBook) : book.Follows [] book where
  ids_eq := by simp [Change.idsOf]
  lastId_le := UInt64.le_refl _
  stored_lt := nofun
  deleted_le := nofun

theorem Follows.trans (h : book.Follows first mid) (h' : mid.Follows second next) :
    book.Follows (first ++ second) next where
  ids_eq := by
    -- no id that was taken out of use at first is given out afterwards
    have hfresh : ∀ id ∈ Change.idsOf .stored second, id ∉ Change.idsOf .deleted first := by
      intro id hstored hdeleted
      exact UInt64.not_lt.mpr (h.deleted_le id hdeleted) (h'.stored_lt id hstored)
    rw [h'.ids_eq, h.ids_eq, Change.idsOf_append, Change.idsOf_append, ← List.append_assoc,
      List.filter_append, List.filter_append (book.ids ++ Change.idsOf .stored first),
      List.filter_filter]
    congr 1
    · refine List.filter_congr fun id _ => ?_
      simp [Bool.and_comm]
    · refine List.filter_congr fun id hid => ?_
      simp [hfresh id hid]
  lastId_le := UInt64.le_trans h.lastId_le h'.lastId_le
  stored_lt := by
    intro id hid
    rw [Change.idsOf_append, List.mem_append] at hid
    obtain hid | hid := hid
    · exact h.stored_lt id hid
    · exact UInt64.lt_of_le_of_lt h.lastId_le (h'.stored_lt id hid)
  deleted_le := by
    intro id hid
    rw [Change.idsOf_append, List.mem_append] at hid
    obtain hid | hid := hid
    · exact UInt64.le_trans (h.deleted_le id hid) h'.lastId_le
    · exact h'.deleted_le id hid

/-- Storing a rule under the next id. -/
theorem follows_add (h : book.Reachable) (left : book.lastId.toNat + 1 < 2 ^ 64) (owner : String)
    (rule : Rule) :
    book.Follows [⟨.stored, book.lastId + 1, owner⟩] (book.add owner rule).2 := by
  have hlt : book.lastId < book.lastId + 1 := by
    rw [UInt64.lt_iff_toNat_lt, UInt64.toNat_add]
    show _ < (book.lastId.toNat + 1) % 2 ^ 64
    rw [Nat.mod_eq_of_lt left]
    omega
  refine ⟨?_, UInt64.le_of_lt hlt, ?_, ?_⟩
  · rw [ids, entries_add (h.id_lt_next left)]
    simp [Change.idsOf, ids]
  · simpa [Change.idsOf] using hlt
  · simp [Change.idsOf]

/-- Putting a rule in the place of another one. -/
theorem follows_replace? {owner : String} {rule : Rule} {entry : Entry}
    (h : book.replace? id rule = some (entry, next)) :
    book.Follows [⟨.updated, id, owner⟩] next := by
  refine ⟨?_, ?_, ?_, ?_⟩
  · simp [Change.idsOf, ids_of_replace? h]
  · rw [lastId_of_replace? h]
    exact UInt64.le_refl _
  · simp [Change.idsOf]
  · simp [Change.idsOf]

/-- Taking a rule out. -/
theorem follows_remove? {owner : String} {entry : Entry} (hreach : book.Reachable)
    (h : book.remove? id = some (entry, next)) :
    book.Follows [⟨.deleted, id, owner⟩] next := by
  have hle := (hreach.idsCounted id entry (get?_of_remove?_eq_some h)).2
  have hlast := lastId_of_remove? h
  refine ⟨?_, ?_, ?_, ?_⟩
  · simp [Change.idsOf, ids_of_remove? h]
  · rw [hlast]
    exact UInt64.le_refl _
  · simp [Change.idsOf]
  · simpa [Change.idsOf, hlast] using hle

end RuleBook

end TextRules
