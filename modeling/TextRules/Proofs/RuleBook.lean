import Mathlib.Algebra.GroupWithZero.Nat
import Mathlib.Data.List.Nodup
import TextRules.Registry.RuleBook

namespace TextRules

/-!
# Rule books as lists

A rule book keeps its rules in an ordered map under ids that it counts up.  Seen from outside it is
a list of entries in the order in which they were added (`EntryList`): a new entry goes to the end
under an id larger than all that were ever given out, and everything else is done to the entries
where they stand.

* `RuleBook.entries_add`, `RuleBook.entries_of_replace?`, `RuleBook.entries_of_remove?` — what each
  change of a book does to its entries.
* `RuleBook.Represents.perform` — one action on a book that represents a list is a step of the
  list with the same answer.
* `RuleBook.refines_entryList` — whatever is asked of a book that starts empty, it answers as a
  list does, until the ids run out.
-/

namespace RuleBook

/-! ### The entries of a book -/

/-- The entries stand in the order of their ids. -/
theorem entries_ordered (book : RuleBook) :
    book.entries.Pairwise fun first second => first.id < second.id := by
  rw [entries, List.pairwise_map]
  refine book.rules.ordered_keys_toList.imp fun h => ?_
  exact Std.compare_eq_lt.mp h

/-- So do the entries of one owner. -/
theorem ownedBy_ordered (book : RuleBook) (owner : String) :
    (book.ownedBy owner).Pairwise fun first second => first.id < second.id :=
  book.entries_ordered.filter _

theorem nodup_of_ordered {list : List Entry}
    (h : list.Pairwise fun first second => first.id < second.id) : list.Nodup := by
  refine h.imp fun hlt heq => ?_
  rw [heq] at hlt
  exact UInt64.lt_irrefl _ hlt

/-- Lists in the order of their ids are known from their members. -/
theorem eq_of_ordered {first second : List Entry}
    (hfirst : first.Pairwise fun a b => a.id < b.id)
    (hsecond : second.Pairwise fun a b => a.id < b.id)
    (hmem : ∀ entry, entry ∈ first ↔ entry ∈ second) : first = second := by
  have hperm : first.Perm second := by
    rw [List.perm_ext_iff_of_nodup (nodup_of_ordered hfirst) (nodup_of_ordered hsecond)]
    exact hmem
  exact hperm.eq_of_pairwise (fun a b _ _ hab hba => absurd hab (UInt64.lt_asymm hba))
    hfirst hsecond

/-- The entries are known from what is held under each id. -/
theorem entries_eq_of_mem_iff {book : RuleBook} {list : List Entry}
    (hordered : list.Pairwise fun first second => first.id < second.id)
    (hmem : ∀ entry, entry ∈ list ↔ book.get? entry.id = some entry) : book.entries = list := by
  refine eq_of_ordered book.entries_ordered hordered fun entry => ?_
  rw [mem_entries_iff, hmem]

/-- Looking an id up is looking through the entries. -/
theorem get?_eq_find? (book : RuleBook) (id : RuleId) :
    book.get? id = book.entries.find? fun entry => entry.id = id := by
  cases hget : book.get? id with
  | none =>
    symm
    rw [List.find?_eq_none]
    intro entry hentry hid
    rw [decide_eq_true_eq] at hid
    rw [mem_entries_iff, hid, hget] at hentry
    cases hentry
  | some entry =>
    have hid := id_of_get? hget
    have hmem : entry ∈ book.entries := by
      rw [mem_entries_iff, hid]
      exact hget
    cases hfind : book.entries.find? fun entry => entry.id = id with
    | none =>
      have hne := List.find?_eq_none.mp hfind entry hmem
      simp [hid] at hne
    | some other =>
      -- two entries under one id are the same
      have hother : other.id = id := by simpa using List.find?_some hfind
      have hheld := mem_entries_iff.mp (List.mem_of_find?_eq_some hfind)
      rw [hother, hget] at hheld
      exact hheld

/-- A new entry goes to the end, if its id is larger than those of the others. -/
theorem entries_add {book : RuleBook} (h : ∀ entry ∈ book.entries, entry.id < book.lastId + 1)
    (owner : String) (rule : Rule) :
    (book.add owner rule).2.entries = book.entries ++ [⟨book.lastId + 1, owner, rule⟩] := by
  apply entries_eq_of_mem_iff
  · rw [List.pairwise_append]
    refine ⟨book.entries_ordered, List.pairwise_singleton _ _, ?_⟩
    intro entry hentry new hnew
    rw [List.mem_singleton.mp hnew]
    exact h entry hentry
  · intro entry
    rw [get?_add, List.mem_append, List.mem_singleton]
    show _ ↔ (if entry.id = book.lastId + 1 then _ else _) = _
    split
    next hid =>
      -- no other entry has the new id
      constructor
      · rintro (hentry | rfl)
        · have hlt := h entry hentry
          rw [hid] at hlt
          exact absurd hlt (UInt64.lt_irrefl _)
        · rfl
      · intro hentry
        right
        rw [← hid]
        exact (Option.some.inj hentry).symm
    next hid =>
      rw [mem_entries_iff]
      constructor
      · rintro (hentry | rfl)
        · exact hentry
        · exact absurd rfl hid
      · exact .inl

/-- The entry that a change answers is the one that was held, with the new rule. -/
theorem entry_of_replace? {book next : RuleBook} {id : RuleId} {rule : Rule} {entry : Entry}
    (h : book.replace? id rule = some (entry, next)) :
    ∃ old, book.get? id = some old ∧ entry = { old with rule } := by
  obtain ⟨held, hheld, heq⟩ := Option.map_eq_some_iff.mp h
  obtain ⟨rfl, -⟩ := Prod.mk.inj heq
  exact ⟨entryOf id held, by rw [get?, hheld]; rfl, rfl⟩

theorem lastId_of_replace? {book next : RuleBook} {id : RuleId} {rule : Rule} {entry : Entry}
    (h : book.replace? id rule = some (entry, next)) : next.lastId = book.lastId := by
  obtain ⟨held, -, heq⟩ := Option.map_eq_some_iff.mp h
  obtain ⟨-, rfl⟩ := Prod.mk.inj heq
  rfl

/-- A changed entry stays where it is and keeps its owner. -/
theorem entries_of_replace? {book next : RuleBook} {id : RuleId} {rule : Rule} {entry : Entry}
    (h : book.replace? id rule = some (entry, next)) :
    next.entries = book.entries.map fun e => if e.id = id then { e with rule } else e := by
  apply entries_eq_of_mem_iff
  · rw [List.pairwise_map]
    refine book.entries_ordered.imp fun hlt => ?_
    split <;> split <;> exact hlt
  · intro e
    rw [get?_of_replace? h, List.mem_map]
    obtain ⟨old, hold, rfl⟩ := entry_of_replace? h
    have hid := id_of_get? hold
    constructor
    · rintro ⟨e, he, rfl⟩
      rw [mem_entries_iff] at he
      by_cases heid : e.id = id
      · rw [heid, hold] at he
        cases he
        simp [hid]
      · simp [heid, he]
    · intro he
      by_cases heid : e.id = id
      · rw [if_pos heid] at he
        cases he
        refine ⟨old, ?_, by rw [if_pos hid]⟩
        rw [mem_entries_iff, hid]
        exact hold
      · rw [if_neg heid] at he
        exact ⟨e, mem_entries_iff.mpr he, by rw [if_neg heid]⟩

/-- The entry that a removal answers is the one that was held. -/
theorem get?_of_remove?_eq_some {book next : RuleBook} {id : RuleId} {entry : Entry}
    (h : book.remove? id = some (entry, next)) : book.get? id = some entry := by
  obtain ⟨held, hheld, heq⟩ := Option.map_eq_some_iff.mp h
  obtain ⟨rfl, -⟩ := Prod.mk.inj heq
  rw [get?, hheld]
  rfl

theorem lastId_of_remove? {book next : RuleBook} {id : RuleId} {entry : Entry}
    (h : book.remove? id = some (entry, next)) : next.lastId = book.lastId := by
  obtain ⟨held, -, heq⟩ := Option.map_eq_some_iff.mp h
  obtain ⟨-, rfl⟩ := Prod.mk.inj heq
  rfl

/-- A removed entry is taken out from where it is. -/
theorem entries_of_remove? {book next : RuleBook} {id : RuleId} {entry : Entry}
    (h : book.remove? id = some (entry, next)) :
    next.entries = book.entries.filter fun e => e.id ≠ id := by
  apply entries_eq_of_mem_iff
  · exact book.entries_ordered.filter _
  · intro e
    rw [get?_of_remove? h, List.mem_filter, mem_entries_iff, decide_eq_true_eq]
    split
    next hid => simp [hid]
    next hid => simp [hid]

theorem length_entries (book : RuleBook) : book.entries.length = book.size := by
  rw [entries, List.length_map, Std.TreeMap.length_toList, size]

/-! ### Actions -/

/-- What can be asked of a rule book. -/
inductive Action
  | add (owner : String) (rule : Rule)
  | get (id : RuleId)
  | replace (id : RuleId) (rule : Rule)
  | remove (id : RuleId)
  | ownedBy (owner : String)
  | size
  deriving DecidableEq

/-- Whether an action adds an entry. -/
def Action.isAdd : Action → Bool
  | .add _ _ => true
  | .get _ | .replace _ _ | .remove _ | .ownedBy _ | .size => false

/-- What a rule book answers. -/
inductive Answer
  | added (id : RuleId)
  | found (entry : Option Entry)
  | replaced (entry : Entry)
  | removed (entry : Entry)
  | missing (id : RuleId)
  | listed (entries : List Entry)
  | counted (size : Nat)
  deriving DecidableEq

/-- The id that an answer gives out. -/
def Answer.newId? : Answer → Option RuleId
  | .added id => some id
  | .found _ | .replaced _ | .removed _ | .missing _ | .listed _ | .counted _ => none

/-- The answer of a book to an action, and the book after it. -/
def perform (book : RuleBook) : Action → Answer × RuleBook
  | .add owner rule => (.added (book.add owner rule).1, (book.add owner rule).2)
  | .get id => (.found (book.get? id), book)
  | .replace id rule =>
    match book.replace? id rule with
    | some (entry, next) => (.replaced entry, next)
    | none => (.missing id, book)
  | .remove id =>
    match book.remove? id with
    | some (entry, next) => (.removed entry, next)
    | none => (.missing id, book)
  | .ownedBy owner => (.listed (book.ownedBy owner), book)
  | .size => (.counted book.size, book)

/-- The answers of a book to one action after the other, and the book at the end. -/
def performAll (book : RuleBook) : List Action → List Answer × RuleBook
  | [] => ([], book)
  | action :: rest =>
    ((book.perform action).1 :: ((book.perform action).2.performAll rest).1,
      ((book.perform action).2.performAll rest).2)

end RuleBook

/-! ### Lists of entries -/

/-- Entries in the order in which they were added, and every id that was ever given out. -/
structure EntryList where
  entries : List Entry
  issued : List RuleId

namespace EntryList

open RuleBook (Action Answer)

/-- No entries, and no ids given out. -/
def empty : EntryList := ⟨[], []⟩

/-- The entry under an id. -/
def find? (list : EntryList) (id : RuleId) : Option Entry :=
  list.entries.find? fun entry => entry.id = id

/-- What an action does to a list, and what is answered.  Adding may use any id that is larger than
    all ids that were ever given out; nothing else is left open. -/
inductive Step : EntryList → Action → Answer → EntryList → Prop
  | add {list : EntryList} {owner : String} {rule : Rule} {id : RuleId}
      (fresh : ∀ used ∈ list.issued, used < id) :
      Step list (.add owner rule) (.added id)
        ⟨list.entries ++ [⟨id, owner, rule⟩], list.issued ++ [id]⟩
  | get {list : EntryList} {id : RuleId} : Step list (.get id) (.found (list.find? id)) list
  | replace {list : EntryList} {id : RuleId} {rule : Rule} {entry : Entry}
      (held : list.find? id = some entry) :
      Step list (.replace id rule) (.replaced { entry with rule })
        { list with entries := list.entries.map fun e => if e.id = id then { e with rule } else e }
  | replaceMissing {list : EntryList} {id : RuleId} {rule : Rule} (missing : list.find? id = none) :
      Step list (.replace id rule) (.missing id) list
  | remove {list : EntryList} {id : RuleId} {entry : Entry} (held : list.find? id = some entry) :
      Step list (.remove id) (.removed entry)
        { list with entries := list.entries.filter fun e => e.id ≠ id }
  | removeMissing {list : EntryList} {id : RuleId} (missing : list.find? id = none) :
      Step list (.remove id) (.missing id) list
  | ownedBy {list : EntryList} {owner : String} :
      Step list (.ownedBy owner) (.listed (list.entries.filter fun e => e.owner = owner)) list
  | size {list : EntryList} : Step list .size (.counted list.entries.length) list

/-- What one action after the other does to a list, and what is answered. -/
inductive Run : EntryList → List Action → List Answer → EntryList → Prop
  | nil {list : EntryList} : Run list [] [] list
  | cons {list next last : EntryList} {action : Action} {answer : Answer} {rest : List Action}
      {answers : List Answer} (first : Step list action answer next)
      (run : Run next rest answers last) : Run list (action :: rest) (answer :: answers) last

end EntryList

/-! ### Ids are given out once -/

namespace EntryList

open RuleBook (Action Answer)

/-- A step gives out at most one id, and that one is larger than all before it. -/
theorem Step.issued_eq {list next : EntryList} {action : Action} {answer : Answer}
    (h : Step list action answer next) :
    next.issued = list.issued ++ answer.newId?.toList ∧
      ∀ id ∈ answer.newId?, ∀ used ∈ list.issued, used < id := by
  cases h <;> simp_all [Answer.newId?]

/-- The ids that a run gives out grow, and all are larger than those before the run. -/
theorem Run.newIds_increasing {list last : EntryList} {actions : List Action}
    {answers : List Answer} (h : Run list actions answers last) :
    (∀ id ∈ answers.filterMap Answer.newId?, ∀ used ∈ list.issued, used < id) ∧
      (answers.filterMap Answer.newId?).Pairwise (· < ·) := by
  induction h with
  | nil => simp
  | @cons list next last action answer rest answers first run ih =>
    obtain ⟨hissued, hfresh⟩ := first.issued_eq
    obtain ⟨hlater, hordered⟩ := ih
    rw [hissued] at hlater
    cases hid : answer.newId? with
    | none =>
      rw [List.filterMap_cons_none hid]
      rw [hid] at hlater
      exact ⟨by simpa using hlater, hordered⟩
    | some id =>
      rw [List.filterMap_cons_some hid, List.pairwise_cons]
      rw [hid] at hlater hfresh
      -- the ids after this step are also larger than the one that it gives out
      have hlater : ∀ i ∈ answers.filterMap Answer.newId?,
          (∀ used ∈ list.issued, used < i) ∧ id < i := by
        intro i hi
        exact ⟨fun used hused => hlater i hi used (by simp [hused]), hlater i hi id (by simp)⟩
      refine ⟨?_, fun i hi => (hlater i hi).2, hordered⟩
      rw [List.forall_mem_cons]
      exact ⟨hfresh id rfl, fun i hi => (hlater i hi).1⟩

end EntryList

/-! ### Books and lists in step -/

namespace RuleBook

/-- A book represents a list of entries when it has the same entries, and its last id bounds every
    id that was given out. -/
structure Represents (book : RuleBook) (list : EntryList) : Prop where
  entries_eq : book.entries = list.entries
  issued_le : ∀ used ∈ list.issued, used ≤ book.lastId
  entries_issued : ∀ entry ∈ list.entries, entry.id ∈ list.issued

variable {book : RuleBook} {list : EntryList}

theorem represents_empty : Represents .empty .empty := by
  refine ⟨rfl, ?_, ?_⟩ <;> simp [EntryList.empty]

theorem Represents.get? (h : Represents book list) (id : RuleId) :
    book.get? id = list.find? id := by
  rw [get?_eq_find?, h.entries_eq, EntryList.find?]

/-- As long as ids are left, a new entry is added to the list under a fresh id. -/
theorem Represents.add (h : Represents book list) (hleft : book.lastId.toNat + 1 < 2 ^ 64)
    (owner : String) (rule : Rule) :
    ∃ next, EntryList.Step list (.add owner rule) (book.perform (.add owner rule)).1 next ∧
      Represents (book.perform (.add owner rule)).2 next := by
  -- the counter does not wrap around, so the next id is above all that were given out
  have hsucc : (book.lastId + 1).toNat = book.lastId.toNat + 1 := by
    rw [UInt64.toNat_add]
    exact Nat.mod_eq_of_lt hleft
  have hfresh : ∀ used ∈ list.issued, used < book.lastId + 1 := by
    intro used hused
    have hle := UInt64.le_iff_toNat_le.mp (h.issued_le used hused)
    rw [UInt64.lt_iff_toNat_lt]
    omega
  have hentries : ∀ entry ∈ book.entries, entry.id < book.lastId + 1 := by
    intro entry hentry
    rw [h.entries_eq] at hentry
    exact hfresh _ (h.entries_issued entry hentry)
  refine ⟨_, .add hfresh, ?_, ?_, ?_⟩
  · show (book.add owner rule).2.entries = _
    rw [entries_add hentries, h.entries_eq]
    rfl
  · intro used hused
    show used ≤ book.lastId + 1
    rcases List.mem_append.mp hused with hused | hused
    · exact UInt64.le_of_lt (hfresh used hused)
    · rw [List.mem_singleton.mp hused]
      exact UInt64.le_refl _
  · intro entry hentry
    rw [List.mem_append] at hentry ⊢
    exact hentry.imp (h.entries_issued entry) fun hnew => by simp [List.mem_singleton.mp hnew]

/-- A change that gives no id out keeps a book and a list together, if both come to the same
    entries and no entry has a new id. -/
theorem Represents.of_entries {next : RuleBook} {entries : List Entry} (h : Represents book list)
    (hlast : next.lastId = book.lastId) (hentries : next.entries = entries)
    (hids : ∀ entry ∈ entries, ∃ old ∈ list.entries, old.id = entry.id) :
    Represents next { list with entries } := by
  refine ⟨hentries, ?_, ?_⟩
  · rw [hlast]
    exact h.issued_le
  · intro entry hentry
    obtain ⟨old, hold, hid⟩ := hids entry hentry
    rw [← hid]
    exact h.entries_issued old hold

/-- Another rule is put into the list where it is put into the book. -/
theorem Represents.replace (h : Represents book list) (id : RuleId) (rule : Rule) :
    ∃ next, EntryList.Step list (.replace id rule) (book.perform (.replace id rule)).1 next ∧
      Represents (book.perform (.replace id rule)).2 next := by
  rw [perform]
  cases hreplace : book.replace? id rule with
  | none =>
    have hsome := replace?_isSome book id rule
    rw [hreplace, h.get?] at hsome
    exact ⟨list, .replaceMissing (by simpa using hsome.symm), h⟩
  | some found =>
    obtain ⟨entry, next⟩ := found
    obtain ⟨old, hold, rfl⟩ := entry_of_replace? hreplace
    rw [h.get?] at hold
    refine ⟨_, .replace hold, h.of_entries (lastId_of_replace? hreplace) ?_ ?_⟩
    · rw [entries_of_replace? hreplace, h.entries_eq]
    · intro entry hentry
      obtain ⟨e, he, rfl⟩ := List.mem_map.mp hentry
      exact ⟨e, he, by split <;> rfl⟩

/-- What is taken out of the book is taken out of the list. -/
theorem Represents.remove (h : Represents book list) (id : RuleId) :
    ∃ next, EntryList.Step list (.remove id) (book.perform (.remove id)).1 next ∧
      Represents (book.perform (.remove id)).2 next := by
  rw [perform]
  cases hremove : book.remove? id with
  | none =>
    have hsome := remove?_isSome book id
    rw [hremove, h.get?] at hsome
    exact ⟨list, .removeMissing (by simpa using hsome.symm), h⟩
  | some found =>
    obtain ⟨entry, next⟩ := found
    have hheld := get?_of_remove?_eq_some hremove
    rw [h.get?] at hheld
    refine ⟨_, .remove hheld, h.of_entries (lastId_of_remove? hremove) ?_ ?_⟩
    · rw [entries_of_remove? hremove, h.entries_eq]
    · intro e he
      exact ⟨e, List.mem_of_mem_filter he, rfl⟩

/-- **One action.** A book that represents a list answers an action as the list does, and goes on
    representing it. -/
theorem Represents.perform (h : Represents book list) (action : Action)
    (hleft : action.isAdd = true → book.lastId.toNat + 1 < 2 ^ 64) :
    ∃ next, EntryList.Step list action (book.perform action).1 next ∧
      Represents (book.perform action).2 next := by
  cases action with
  | add owner rule => exact h.add (hleft rfl) owner rule
  | get id =>
    refine ⟨list, ?_, h⟩
    rw [RuleBook.perform, h.get?]
    exact .get
  | replace id rule => exact h.replace id rule
  | remove id => exact h.remove id
  | ownedBy owner =>
    refine ⟨list, ?_, h⟩
    rw [RuleBook.perform, RuleBook.ownedBy, h.entries_eq]
    exact .ownedBy
  | size =>
    refine ⟨list, ?_, h⟩
    rw [RuleBook.perform, ← length_entries, h.entries_eq]
    exact .size

/-- Only additions count the last id up. -/
theorem toNat_lastId_perform_le (book : RuleBook) (action : Action) :
    (book.perform action).2.lastId.toNat ≤
      book.lastId.toNat + if action.isAdd = true then 1 else 0 := by
  cases action with
  | add owner rule =>
    show (book.lastId + 1).toNat ≤ book.lastId.toNat + 1
    rw [UInt64.toNat_add]
    exact Nat.mod_le _ _
  | replace id rule =>
    rw [RuleBook.perform]
    split
    next hreplace => exact Nat.le_of_eq (congrArg _ (lastId_of_replace? hreplace))
    next => exact Nat.le_refl _
  | remove id =>
    rw [RuleBook.perform]
    split
    next hremove => exact Nat.le_of_eq (congrArg _ (lastId_of_remove? hremove))
    next => exact Nat.le_refl _
  | _ => exact Nat.le_refl _

/-- Any number of actions, as long as ids are left. -/
theorem Represents.performAll (h : Represents book list) (actions : List Action)
    (hleft : book.lastId.toNat + actions.countP Action.isAdd < 2 ^ 64) :
    ∃ last, EntryList.Run list actions (book.performAll actions).1 last ∧
      Represents (book.performAll actions).2 last := by
  -- an addition takes one of the ids that are left, and everything else takes none
  induction actions generalizing book list with
  | nil => exact ⟨list, .nil, h⟩
  | cons action rest ih =>
    rw [List.countP_cons] at hleft
    have hcount := toNat_lastId_perform_le book action
    have hfirst : action.isAdd = true → book.lastId.toNat + 1 < 2 ^ 64 := by
      intro hadd
      rw [if_pos hadd] at hleft
      omega
    obtain ⟨next, hstep, hnext⟩ := h.perform action hfirst
    obtain ⟨last, hrun, hlast⟩ := ih hnext (by omega)
    exact ⟨last, .cons hstep hrun, hlast⟩

/-- Each entry of a book is listed for its owner, once, and for nobody else. -/
theorem count_ownedBy {entry : Entry} (h : entry ∈ book.entries) (owner : String) :
    (book.ownedBy owner).count entry = if owner = entry.owner then 1 else 0 := by
  rw [ownedBy]
  split
  next howner =>
    rw [List.count_filter (by simp [howner])]
    exact List.count_eq_one_of_mem (nodup_of_ordered book.entries_ordered) h
  next howner =>
    rw [List.count_eq_zero, List.mem_filter, decide_eq_true_eq]
    rintro ⟨-, hown⟩
    exact howner hown.symm

/-- **A rule book is a list of entries.** Until 2^64 additions have been made, a book that starts
    empty answers whatever it is asked as a list does, to whose end entries are added under larger
    and larger ids, and it holds the same entries in the same order.  So no id is given out twice,
    and each entry that is held is listed for its owner, once, and for nobody else. -/
theorem refines_entryList (actions : List Action) (h : actions.countP Action.isAdd < 2 ^ 64) :
    (∃ last, EntryList.Run .empty actions (empty.performAll actions).1 last ∧
      (empty.performAll actions).2.entries = last.entries) ∧
    ((empty.performAll actions).1.filterMap Answer.newId?).Pairwise (· < ·) ∧
    ∀ id entry, (empty.performAll actions).2.get? id = some entry → ∀ owner,
      ((empty.performAll actions).2.ownedBy owner).count entry =
        if owner = entry.owner then 1 else 0 := by
  have hleft : empty.lastId.toNat + actions.countP Action.isAdd < 2 ^ 64 := by
    show 0 + _ < _
    omega
  obtain ⟨last, hrun, hlast⟩ := represents_empty.performAll actions hleft
  refine ⟨⟨last, hrun, hlast.entries_eq⟩, hrun.newIds_increasing.2, ?_⟩
  intro id entry hget owner
  apply count_ownedBy
  rw [mem_entries_iff, id_of_get? hget]
  exact hget

theorem refines_entryList_after_removal :
    let rule : Rule := ⟨[.leaf (.number 1)], .lt, [.leaf .total]⟩
    ∃ last, EntryList.Run .empty
      [.add "a" rule, .add "b" rule, .remove 2, .add "a" rule, .replace 2 rule, .ownedBy "a"]
      [.added 1, .added 2, .removed ⟨2, "b", rule⟩, .added 3, .missing 2,
        .listed [⟨1, "a", rule⟩, ⟨3, "a", rule⟩]] last := by
  intro rule
  obtain ⟨⟨last, hrun, -⟩, -⟩ := refines_entryList
    [.add "a" rule, .add "b" rule, .remove 2, .add "a" rule, .replace 2 rule, .ownedBy "a"]
    (by decide)
  have hanswers : (empty.performAll
      [.add "a" rule, .add "b" rule, .remove 2, .add "a" rule, .replace 2 rule, .ownedBy "a"]).1 =
      [.added 1, .added 2, .removed ⟨2, "b", rule⟩, .added 3, .missing 2,
        .listed [⟨1, "a", rule⟩, ⟨3, "a", rule⟩]] := by
    decide +kernel
  rw [hanswers] at hrun
  exact ⟨last, hrun⟩

end RuleBook

end TextRules
