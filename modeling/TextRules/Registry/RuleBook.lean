import Std.Data.TreeMap
import TextRules.Rule

namespace TextRules

/-!
# Rule books

A rule book holds rules of several owners under ids.  Ids are given out in increasing order, and
never twice, so the order of the ids is the order in which the rules were added.
-/

/-- The number under which a rule is held. -/
abbrev RuleId := UInt64

/-- An id as text. -/
def RuleId.text (id : RuleId) : String := decimalText id.toNat

/-- A rule and whose it is: what a book keeps under an id. -/
structure OwnedRule where
  owner : String
  rule : Rule
  deriving DecidableEq

/-- A rule that is held in a book. -/
structure Entry where
  id : RuleId
  owner : String
  rule : Rule
  deriving DecidableEq

/-- Rules by id, and the last id that was given out.

    The id of an entry is the key under which its rule is kept, and is not kept beside the rule a
    second time.  A second copy could never differ from the key: an id is only ever given to an
    entry by adding it, which puts it under this very id; putting another rule in its place leaves
    the id alone; and nothing moves an entry to another key.  With the key alone there is no book
    in which an entry is found under an id that is not its own. -/
structure RuleBook where
  rules : Std.TreeMap RuleId OwnedRule
  lastId : RuleId

namespace RuleBook

/-- A book without rules. -/
def empty : RuleBook := ⟨∅, 0⟩

/-- The entry that a rule makes under an id. -/
def entryOf (id : RuleId) (held : OwnedRule) : Entry := ⟨id, held.owner, held.rule⟩

/-- Adds a rule under a new id. -/
def add (book : RuleBook) (owner : String) (rule : Rule) : RuleId × RuleBook :=
  let id := book.lastId + 1
  (id, ⟨book.rules.insert id ⟨owner, rule⟩, id⟩)

/-- The entry under an id. -/
def get? (book : RuleBook) (id : RuleId) : Option Entry := (book.rules[id]?).map (entryOf id)

/-- Puts another rule in the place of the one under an id.  Its owner stays. -/
def replace? (book : RuleBook) (id : RuleId) (rule : Rule) : Option (Entry × RuleBook) :=
  (book.rules[id]?).map fun held =>
    (⟨id, held.owner, rule⟩, { book with rules := book.rules.insert id ⟨held.owner, rule⟩ })

/-- Takes out the rule under an id. -/
def remove? (book : RuleBook) (id : RuleId) : Option (Entry × RuleBook) :=
  (book.rules[id]?).map fun held => (entryOf id held, { book with rules := book.rules.erase id })

/-- Every entry, the oldest first. -/
def entries (book : RuleBook) : List Entry :=
  book.rules.toList.map fun (id, held) => entryOf id held

/-- The entries of one owner, the oldest first. -/
def ownedBy (book : RuleBook) (owner : String) : List Entry :=
  book.entries.filter fun entry => entry.owner = owner

/-- How many rules a book holds. -/
def size (book : RuleBook) : Nat := book.rules.size

/-- Why nothing was found under an id. -/
def missingMessage (id : RuleId) : String := s!"rule {id.text} does not exist"

/-! ### What is held under each id -/

theorem id_of_get? {book : RuleBook} {id : RuleId} {entry : Entry}
    (h : book.get? id = some entry) : entry.id = id := by
  obtain ⟨held, -, rfl⟩ := Option.map_eq_some_iff.1 h
  rfl

theorem get?_add (book : RuleBook) (owner : String) (rule : Rule) (id : RuleId) :
    (book.add owner rule).2.get? id =
      if id = (book.add owner rule).1 then some ⟨id, owner, rule⟩ else book.get? id := by
  by_cases h : id = (book.add owner rule).1
  · subst h
    simp [add, get?, entryOf]
  · simp only [add] at h
    simp [add, get?, Std.TreeMap.getElem?_insert, h, Ne.symm h]

theorem get?_of_replace? {book next : RuleBook} {id : RuleId} {rule : Rule} {entry : Entry}
    (h : book.replace? id rule = some (entry, next)) (other : RuleId) :
    next.get? other = if other = id then some entry else book.get? other := by
  obtain ⟨held, -, h⟩ := Option.map_eq_some_iff.1 h
  obtain ⟨rfl, rfl⟩ := Prod.mk.inj h
  by_cases hid : other = id
  · subst hid
    simp [get?, entryOf]
  · simp [get?, Std.TreeMap.getElem?_insert, hid, Ne.symm hid]

theorem get?_of_remove? {book next : RuleBook} {id : RuleId} {entry : Entry}
    (h : book.remove? id = some (entry, next)) (other : RuleId) :
    next.get? other = if other = id then none else book.get? other := by
  obtain ⟨held, -, h⟩ := Option.map_eq_some_iff.1 h
  obtain ⟨rfl, rfl⟩ := Prod.mk.inj h
  by_cases hid : other = id
  · subst hid
    simp [get?]
  · simp [get?, Std.TreeMap.getElem?_erase, hid, Ne.symm hid]

theorem replace?_isSome (book : RuleBook) (id : RuleId) (rule : Rule) :
    (book.replace? id rule).isSome = (book.get? id).isSome := by
  simp [replace?, get?]

theorem remove?_isSome (book : RuleBook) (id : RuleId) :
    (book.remove? id).isSome = (book.get? id).isSome := by
  simp [remove?, get?]

theorem mem_entries_iff {book : RuleBook} {entry : Entry} :
    entry ∈ book.entries ↔ book.get? entry.id = some entry := by
  simp only [entries, get?, List.mem_map, Prod.exists, Std.TreeMap.mem_toList_iff_getElem?_eq_some,
    Option.map_eq_some_iff]
  constructor
  · rintro ⟨id, held, h, rfl⟩
    exact ⟨held, h, rfl⟩
  · rintro ⟨held, h, he⟩
    exact ⟨entry.id, held, h, he⟩

end RuleBook

end TextRules
