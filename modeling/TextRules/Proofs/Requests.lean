import TextRules.Proofs.RuleBook
import TextRules.Registry

namespace TextRules

/-!
# What requests do

Every request changes the book of a registry in at most one place, by an action that its owner may
take there.

* `Registry.serve_eq_or_after` — what a request does to a registry: nothing, or one allowed action.
* `Registry.Allows.changedAt` — what an allowed action changes: only what stands under one id,
  which the owner held before or which is the next one to be given out.
* `Registry.changes_all_or_nothing` — when registering, revising and withdrawing succeed, what each
  of them does then, and that they leave everything as it was otherwise.

Ids are counted up in 64 bits.  A registry is `Reachable` as long as the count has not come round;
until then the next id is free (`RuleBook.Reachable.get?_next`).
-/

/-- Who makes a request. -/
def Request.owner : Request → String
  | .register owner _ | .revise owner _ _ | .withdraw owner _ | .list owner | .check owner _
  | .checkAll owner _ => owner

/-- Whether a request adds a rule. -/
def Request.adds : Request → Bool
  | .register _ text => (Rule.parse text).isOk
  | .revise _ _ _ | .withdraw _ _ | .list _ | .check _ _ | .checkAll _ _ => false

/-! ### Books that can come about -/

namespace RuleBook

/-- Two books hold the same, but for what stands under one id. -/
def ChangedAt (book next : RuleBook) (id : RuleId) (now : Option Entry) : Prop :=
  ∀ other, next.get? other = if other = id then now else book.get? other

theorem changedAt_add (book : RuleBook) (owner : String) (rule : Rule) :
    book.ChangedAt (book.add owner rule).2 (book.lastId + 1)
      (some ⟨book.lastId + 1, owner, rule⟩) := by
  intro other
  refine (get?_add book owner rule other).trans ?_
  show (if other = book.lastId + 1 then _ else _) = _
  split
  next hother => rw [hother]
  next => rfl

/-- The books that any actions make of an empty one, as long as there are ids left for the rules
    that are added. -/
inductive Reachable : RuleBook → Prop
  | empty : Reachable .empty
  | perform {book : RuleBook} (h : Reachable book) (action : Action)
      (left : action.isAdd = true → book.lastId.toNat + 1 < 2 ^ 64) :
      Reachable (book.perform action).2

/-- The ids in use lie between zero, which is never given out, and the last one. -/
def IdsCounted (book : RuleBook) : Prop :=
  ∀ id entry, book.get? id = some entry → 0 < id ∧ id ≤ book.lastId

variable {book : RuleBook}

/-- A change under an id that is in use brings no new ids. -/
theorem IdsCounted.of_changedAt (h : book.IdsCounted) {next : RuleBook} {id : RuleId}
    {old : Entry} {now : Option Entry} (hold : book.get? id = some old)
    (hchanged : book.ChangedAt next id now) (hlast : next.lastId = book.lastId) :
    next.IdsCounted := by
  intro other entry hget
  rw [hlast]
  rw [hchanged other] at hget
  split at hget
  next hother => exact hother ▸ h id old hold
  next => exact h other entry hget

/-- As long as ids are left, the ids stay between zero and the last one. -/
theorem IdsCounted.perform (h : book.IdsCounted) (action : Action)
    (left : action.isAdd = true → book.lastId.toNat + 1 < 2 ^ 64) :
    (book.perform action).2.IdsCounted := by
  cases action with
  | add owner rule =>
    -- the count goes up by one, and does not come round
    have hsucc : (book.lastId + 1).toNat = book.lastId.toNat + 1 := by
      rw [UInt64.toNat_add]
      exact Nat.mod_eq_of_lt (left rfl)
    intro id entry hget
    show 0 < id ∧ id ≤ book.lastId + 1
    rw [UInt64.lt_iff_toNat_lt, UInt64.le_iff_toNat_le, hsucc, UInt64.toNat_zero]
    change (book.add owner rule).2.get? id = some entry at hget
    rw [get?_add] at hget
    split at hget
    next hid =>
      rw [hid, show (book.add owner rule).1 = book.lastId + 1 from rfl, hsucc]
      omega
    next =>
      obtain ⟨hpos, hle⟩ := h id entry hget
      rw [UInt64.lt_iff_toNat_lt, UInt64.toNat_zero] at hpos
      rw [UInt64.le_iff_toNat_le] at hle
      omega
  | replace id rule =>
    rw [RuleBook.perform]
    cases hreplace : book.replace? id rule with
    | none => exact h
    | some found =>
      obtain ⟨old, hold, -⟩ := entry_of_replace? hreplace
      exact h.of_changedAt hold (get?_of_replace? hreplace) (lastId_of_replace? hreplace)
  | remove id =>
    rw [RuleBook.perform]
    cases hremove : book.remove? id with
    | none => exact h
    | some found =>
      exact h.of_changedAt (get?_of_remove?_eq_some hremove) (get?_of_remove? hremove)
        (lastId_of_remove? hremove)
  | get id => exact h
  | ownedBy owner => exact h
  | size => exact h

theorem Reachable.idsCounted (h : book.Reachable) : book.IdsCounted := by
  induction h with
  | empty =>
    intro id entry hget
    cases hget
  | perform _ action left ih => exact ih.perform action left

/-- Nothing stands under the next id. -/
theorem Reachable.get?_next (h : book.Reachable) : book.get? (book.lastId + 1) = none := by
  rw [Option.eq_none_iff_forall_ne_some]
  intro entry hget
  obtain ⟨hpos, hle⟩ := h.idsCounted _ entry hget
  rw [UInt64.lt_iff_toNat_lt, UInt64.toNat_zero, UInt64.toNat_add] at hpos
  rw [UInt64.le_iff_toNat_le, UInt64.toNat_add] at hle
  have hlast := book.lastId.toNat_lt
  have hone : (1 : UInt64).toNat = 1 := rfl
  omega

/-- As long as ids are left, the next one is larger than all that are in use. -/
theorem Reachable.id_lt_next (h : book.Reachable)
    (hleft : book.lastId.toNat + 1 < 2 ^ 64) :
    ∀ entry ∈ book.entries, entry.id < book.lastId + 1 := by
  intro entry hentry
  obtain ⟨-, hle⟩ := h.idsCounted _ entry (mem_entries_iff.mp hentry)
  rw [UInt64.le_iff_toNat_le] at hle
  rw [UInt64.lt_iff_toNat_lt, UInt64.toNat_add]
  show _ < (book.lastId.toNat + 1) % 2 ^ 64
  rw [Nat.mod_eq_of_lt hleft]
  omega

/- Once the count has come round, a new rule takes the place of an old one, whoever owns that. -/
example :
    let rule : Rule := ⟨[.leaf (.number 1)], .lt, [.leaf .total]⟩
    let book : RuleBook := ⟨(empty.add "b" rule).2.rules, 0⟩
    book.get? (book.lastId + 1) = some ⟨1, "b", rule⟩ ∧ (book.add "a" rule).2.ownedBy "b" = [] := by
  decide +kernel

end RuleBook

namespace Registry

open RuleBook (Action)

variable {registry : Registry} {owner text : String} {id : RuleId} {rule : Rule}

/-- The book has a rule of the owner under the id. -/
def Held (registry : Registry) (owner : String) (id : RuleId) : Prop :=
  ∃ rule, registry.book.get? id = some ⟨id, owner, rule⟩

/-! ### Registering -/

theorem value_register_of_error {cause : RuleError} (h : Rule.parse text = .error cause) :
    (registry.register owner text).value = (.error (.badRule cause), registry) := by
  simp [register, h]

theorem value_register_of_ok (h : Rule.parse text = .ok rule) :
    (registry.register owner text).value =
      (.ok ⟨registry.book.lastId + 1, owner, rule⟩,
        { registry with book := (registry.book.add owner rule).2 }) := by
  simp [register, h, RuleBook.add]

theorem records_register (registry : Registry) (owner text : String) :
    (registry.register owner text).records = (Rule.read text).records ++
      [match Rule.parse text with
        | .error cause => ⟨.warn, .service, s!"Rejected rule '{text}' for {owner}: {cause.message}"⟩
        | .ok _ => ⟨.info, .service,
            s!"Stored rule {RuleId.text (registry.book.lastId + 1)} for {owner}"⟩] := by
  cases h : Rule.parse text <;> simp [register, h, RuleBook.add, Logged.report]

/-! ### Revising -/

theorem revise_of_not_held (h : ¬registry.Held owner id) :
    registry.revise owner id text = pure (.error (.notFound id), registry) := by
  rw [Held, ← holds_iff] at h
  simp [revise, h]

theorem value_revise_of_error {cause : RuleError} (hheld : registry.Held owner id)
    (h : Rule.parse text = .error cause) :
    (registry.revise owner id text).value = (.error (.badRule cause), registry) := by
  simp [revise, holds_iff.mpr hheld, h]

/-- Where the owner holds a rule, another rule can be put in its place. -/
theorem Held.replace? (hheld : registry.Held owner id) (rule : Rule) :
    ∃ next, registry.book.replace? id rule = some (⟨id, owner, rule⟩, next) := by
  obtain ⟨old, hold⟩ := hheld
  have hsome := RuleBook.replace?_isSome registry.book id rule
  rw [hold, Option.isSome_some, Option.isSome_iff_exists] at hsome
  obtain ⟨⟨entry, next⟩, hreplace⟩ := hsome
  obtain ⟨found, hfound, rfl⟩ := RuleBook.entry_of_replace? hreplace
  rw [hold] at hfound
  cases hfound
  exact ⟨next, hreplace⟩

theorem value_revise_of_ok {next : RuleBook} (hheld : registry.Held owner id)
    (h : Rule.parse text = .ok rule)
    (hreplace : registry.book.replace? id rule = some (⟨id, owner, rule⟩, next)) :
    (registry.revise owner id text).value =
      (.ok ⟨id, owner, rule⟩, { registry with book := next }) := by
  simp [revise, holds_iff.mpr hheld, h, hreplace]

theorem records_revise_of_held (hheld : registry.Held owner id) (text : String) :
    (registry.revise owner id text).records = (Rule.read text).records ++
      [match Rule.parse text with
        | .error cause => ⟨.warn, .service,
            s!"Rejected update of rule {id.text} to '{text}': {cause.message}"⟩
        | .ok _ => ⟨.info, .service, s!"Updated rule {id.text} for {owner}"⟩] := by
  cases h : Rule.parse text with
  | error cause => simp [revise, holds_iff.mpr hheld, h, Logged.report]
  | ok rule =>
    obtain ⟨next, hreplace⟩ := hheld.replace? rule
    simp [revise, holds_iff.mpr hheld, h, hreplace, Logged.report]

/-! ### Withdrawing -/

theorem withdraw_of_not_held (h : ¬registry.Held owner id) :
    registry.withdraw owner id = pure (.error (.notFound id), registry) := by
  rw [Held, ← holds_iff] at h
  simp [withdraw, h]

/-- Where the owner holds a rule, it can be taken out. -/
theorem Held.remove? (hheld : registry.Held owner id) :
    ∃ rule next, registry.book.get? id = some ⟨id, owner, rule⟩ ∧
      registry.book.remove? id = some (⟨id, owner, rule⟩, next) := by
  obtain ⟨rule, hold⟩ := hheld
  have hsome := RuleBook.remove?_isSome registry.book id
  rw [hold, Option.isSome_some, Option.isSome_iff_exists] at hsome
  obtain ⟨⟨entry, next⟩, hremove⟩ := hsome
  have hentry := RuleBook.get?_of_remove?_eq_some hremove
  rw [hold] at hentry
  cases hentry
  exact ⟨rule, next, hold, hremove⟩

theorem value_withdraw_of_held {next : RuleBook} (hheld : registry.Held owner id)
    (hremove : registry.book.remove? id = some (⟨id, owner, rule⟩, next)) :
    (registry.withdraw owner id).value =
      (.ok ⟨id, owner, rule⟩, { registry with book := next }) := by
  simp [withdraw, holds_iff.mpr hheld, hremove]

theorem records_withdraw_of_held (hheld : registry.Held owner id) :
    (registry.withdraw owner id).records =
      [⟨.info, .service, s!"Deleted rule {id.text} for {owner}"⟩] := by
  obtain ⟨rule, next, -, hremove⟩ := hheld.remove?
  simp [withdraw, holds_iff.mpr hheld, hremove, Logged.report]

/-! ### What a request changes -/

/-- The actions on the book that an owner may bring about. -/
def Allows (registry : Registry) (owner : String) : Action → Prop
  | .add holder rule => holder = owner ∧ ∃ text, Rule.parse text = .ok rule
  | .replace id rule => registry.Held owner id ∧ ∃ text, Rule.parse text = .ok rule
  | .remove id => registry.Held owner id
  | .get _ | .ownedBy _ | .size => False

/-- A registry after an action on its book. -/
def after (registry : Registry) (action : Action) : Registry :=
  { registry with book := (registry.book.perform action).2 }

theorem register_eq_or_after (registry : Registry) (owner text : String) :
    (registry.register owner text).value.2 = registry ∨
      ∃ action, registry.Allows owner action ∧ (Rule.parse text).isOk = true ∧
        (registry.register owner text).value.2 = registry.after action := by
  cases h : Rule.parse text with
  | error cause =>
    rw [value_register_of_error h]
    exact .inl rfl
  | ok rule =>
    rw [value_register_of_ok h]
    exact .inr ⟨.add owner rule, ⟨rfl, text, h⟩, rfl, rfl⟩

theorem revise_eq_or_after (registry : Registry) (owner : String) (id : RuleId) (text : String) :
    (registry.revise owner id text).value.2 = registry ∨
      ∃ action, registry.Allows owner action ∧ action.isAdd = false ∧
        (registry.revise owner id text).value.2 = registry.after action := by
  by_cases hheld : registry.Held owner id
  · cases h : Rule.parse text with
    | error cause =>
      rw [value_revise_of_error hheld h]
      exact .inl rfl
    | ok rule =>
      obtain ⟨next, hreplace⟩ := hheld.replace? rule
      rw [value_revise_of_ok hheld h hreplace]
      refine .inr ⟨.replace id rule, ⟨hheld, text, h⟩, rfl, ?_⟩
      simp [after, RuleBook.perform, hreplace]
  · rw [revise_of_not_held hheld]
    exact .inl rfl

theorem withdraw_eq_or_after (registry : Registry) (owner : String) (id : RuleId) :
    (registry.withdraw owner id).value.2 = registry ∨
      ∃ action, registry.Allows owner action ∧ action.isAdd = false ∧
        (registry.withdraw owner id).value.2 = registry.after action := by
  by_cases hheld : registry.Held owner id
  · obtain ⟨rule, next, -, hremove⟩ := hheld.remove?
    rw [value_withdraw_of_held hheld hremove]
    refine .inr ⟨.remove id, hheld, rfl, ?_⟩
    simp [after, RuleBook.perform, hremove]
  · rw [withdraw_of_not_held hheld]
    exact .inl rfl

/-- **What a request does.** It leaves the registry as it is, or it takes one action on the book
    that its owner is allowed. -/
theorem serve_eq_or_after (registry : Registry) (request : Request) :
    (registry.serve request).value.2 = registry ∨
      ∃ action, registry.Allows request.owner action ∧
        (action.isAdd = true → request.adds = true) ∧
        (registry.serve request).value.2 = registry.after action := by
  cases request with
  | register owner text =>
    obtain h | ⟨action, hallows, hok, h⟩ := registry.register_eq_or_after owner text
    · exact .inl h
    · exact .inr ⟨action, hallows, fun _ => hok, h⟩
  | revise owner id text =>
    obtain h | ⟨action, hallows, hadd, h⟩ := registry.revise_eq_or_after owner id text
    · exact .inl h
    · exact .inr ⟨action, hallows, fun hadd' => by simp [hadd] at hadd', h⟩
  | withdraw owner id =>
    obtain h | ⟨action, hallows, hadd, h⟩ := registry.withdraw_eq_or_after owner id
    · exact .inl h
    · exact .inr ⟨action, hallows, fun hadd' => by simp [hadd] at hadd', h⟩
  | list owner => exact .inl rfl
  | check owner text => exact .inl rfl
  | checkAll owner texts => exact .inl rfl

/-- An allowed action changes only what stands under one id.  The owner held a rule under this id,
    or it is the next one to be given out.  What stands there afterwards, if anything, is a rule of
    the owner that was read from a text. -/
theorem Allows.changedAt {action : Action} (h : registry.Allows owner action) :
    ∃ id now, registry.book.ChangedAt (registry.after action).book id now ∧
      (registry.Held owner id ∨ id = registry.book.lastId + 1) ∧
      ∀ entry ∈ now, entry.owner = owner ∧ ∃ text, Rule.parse text = .ok entry.rule := by
  cases action with
  | add holder rule =>
    obtain ⟨rfl, hrule⟩ := h
    refine ⟨_, _, registry.book.changedAt_add holder rule, .inr rfl, ?_⟩
    rintro entry ⟨⟩
    exact ⟨rfl, hrule⟩
  | replace id rule =>
    obtain ⟨hheld, hrule⟩ := h
    obtain ⟨next, hreplace⟩ := hheld.replace? rule
    refine ⟨id, some ⟨id, owner, rule⟩, ?_, .inl hheld, ?_⟩
    · intro other
      rw [after, RuleBook.perform, hreplace]
      exact RuleBook.get?_of_replace? hreplace other
    · rintro entry ⟨⟩
      exact ⟨rfl, hrule⟩
  | remove id =>
    obtain ⟨rule, next, -, hremove⟩ := Held.remove? h
    refine ⟨id, none, ?_, .inl h, ?_⟩
    · intro other
      rw [after, RuleBook.perform, hremove]
      exact RuleBook.get?_of_remove? hremove other
    · rintro entry ⟨⟩
  | get id => exact h.elim
  | ownedBy owner => exact h.elim
  | size => exact h.elim

/-- The policy never changes. -/
theorem policy_serve (registry : Registry) (request : Request) :
    (registry.serve request).value.2.policy = registry.policy := by
  obtain h | ⟨action, -, -, h⟩ := registry.serve_eq_or_after request
  · rw [h]
  · rw [h, after]

/-! ### Registries that can come about -/

/-- The registries that come about when a book is filled in any way, a policy chosen, and any
    requests are served, as long as there are ids left for the rules that are added. -/
inductive Reachable : Registry → Prop
  | opened {book : RuleBook} (h : book.Reachable) (policy : EmptyPolicy) : Reachable ⟨book, policy⟩
  | served {registry : Registry} (h : Reachable registry) (request : Request)
      (left : request.adds = true → registry.book.lastId.toNat + 1 < 2 ^ 64) :
      Reachable (registry.serve request).value.2

theorem Reachable.book (h : registry.Reachable) : registry.book.Reachable := by
  induction h with
  | opened hbook policy => exact hbook
  | @served registry _ request left ih =>
    obtain heq | ⟨action, -, hadd, heq⟩ := registry.serve_eq_or_after request
    · rw [heq]
      exact ih
    · rw [heq]
      exact ih.perform action fun h => left (hadd h)

/-! ### All or nothing -/

/-- A change either succeeds, with its whole effect, or leaves the registry as it was; and it
    succeeds exactly where it is permitted. -/
structure AllOrNothing (registry : Registry) (outcome : Except Refusal Entry × Registry)
    (permitted : Prop) (effect : Entry → RuleBook → Prop) : Prop where
  succeeds_iff : (∃ entry, outcome.1 = .ok entry) ↔ permitted
  of_refusal : ∀ cause, outcome.1 = .error cause → outcome.2 = registry
  of_success : ∀ entry, outcome.1 = .ok entry →
    effect entry outcome.2.book ∧ outcome.2.policy = registry.policy

namespace AllOrNothing

variable {outcome : Except Refusal Entry × Registry} {permitted : Prop}
  {effect : Entry → RuleBook → Prop}

theorem refused {cause : Refusal} (h : ¬permitted) :
    AllOrNothing registry (.error cause, registry) permitted effect where
  succeeds_iff := by simp [h]
  of_refusal _ _ := rfl
  of_success _ hok := by cases hok

theorem done {entry : Entry} {next : RuleBook} (h : permitted) (heffect : effect entry next) :
    AllOrNothing registry (.ok entry, { registry with book := next }) permitted effect where
  succeeds_iff := by simp [h]
  of_refusal _ herror := by cases herror
  of_success _ hok := by
    cases hok
    exact ⟨heffect, rfl⟩

end AllOrNothing

/-- A text is registered exactly if it can be read.  Its rule then stands under an id that was
    free. -/
theorem Reachable.register_allOrNothing (h : registry.Reachable) (owner text : String) :
    AllOrNothing registry (registry.register owner text).value (∃ rule, Rule.parse text = .ok rule)
      fun entry next => entry.owner = owner ∧ Rule.parse text = .ok entry.rule ∧
        registry.book.get? entry.id = none ∧
        registry.book.ChangedAt next entry.id (some entry) := by
  cases hparse : Rule.parse text with
  | error cause =>
    rw [value_register_of_error hparse]
    exact .refused (by simp)
  | ok rule =>
    rw [value_register_of_ok hparse]
    exact .done ⟨rule, rfl⟩
      ⟨rfl, rfl, h.book.get?_next, registry.book.changedAt_add owner rule⟩

/-- A rule is revised exactly if the owner holds one and the text can be read. -/
theorem revise_allOrNothing (registry : Registry) (owner : String) (id : RuleId) (text : String) :
    AllOrNothing registry (registry.revise owner id text).value
      (registry.Held owner id ∧ ∃ rule, Rule.parse text = .ok rule)
      fun entry next => entry.id = id ∧ entry.owner = owner ∧ Rule.parse text = .ok entry.rule ∧
        registry.book.ChangedAt next id (some entry) := by
  by_cases hheld : registry.Held owner id
  · cases hparse : Rule.parse text with
    | error cause =>
      rw [value_revise_of_error hheld hparse]
      exact .refused (by simp)
    | ok rule =>
      obtain ⟨next, hreplace⟩ := hheld.replace? rule
      rw [value_revise_of_ok hheld hparse hreplace]
      exact .done ⟨hheld, rule, rfl⟩ ⟨rfl, rfl, rfl, RuleBook.get?_of_replace? hreplace⟩
  · rw [revise_of_not_held hheld]
    exact .refused fun hpermitted => hheld hpermitted.1

/-- A rule is withdrawn exactly if the owner holds it. -/
theorem withdraw_allOrNothing (registry : Registry) (owner : String) (id : RuleId) :
    AllOrNothing registry (registry.withdraw owner id).value (registry.Held owner id)
      fun entry next => registry.book.get? id = some entry ∧
        registry.book.ChangedAt next id none := by
  by_cases hheld : registry.Held owner id
  · obtain ⟨rule, next, hget, hremove⟩ := hheld.remove?
    rw [value_withdraw_of_held hheld hremove]
    exact .done hheld ⟨hget, RuleBook.get?_of_remove? hremove⟩
  · rw [withdraw_of_not_held hheld]
    exact .refused hheld

/-- **Changes succeed where they should, and otherwise change nothing.** A text is registered
    exactly if it can be read, a rule withdrawn exactly if the owner holds it, and a rule revised
    exactly if both are so.  What an owner does not hold is not found, whatever the text; a text
    that cannot be read is refused otherwise, for the reason that the reader gives.  A refusal
    leaves the registry as it was, the next id included.  A success answers the entry that now
    stands under its id, or that stood there until it was withdrawn, and changes no other one. -/
theorem changes_all_or_nothing (h : registry.Reachable) (owner text : String) (id : RuleId) :
    AllOrNothing registry (registry.register owner text).value (∃ rule, Rule.parse text = .ok rule)
      (fun entry next => entry.owner = owner ∧ Rule.parse text = .ok entry.rule ∧
        registry.book.get? entry.id = none ∧
        registry.book.ChangedAt next entry.id (some entry)) ∧
    AllOrNothing registry (registry.revise owner id text).value
      (registry.Held owner id ∧ ∃ rule, Rule.parse text = .ok rule)
      (fun entry next => entry.id = id ∧ entry.owner = owner ∧ Rule.parse text = .ok entry.rule ∧
        registry.book.ChangedAt next id (some entry)) ∧
    AllOrNothing registry (registry.withdraw owner id).value (registry.Held owner id)
      (fun entry next => registry.book.get? id = some entry ∧
        registry.book.ChangedAt next id none) ∧
    (¬registry.Held owner id →
      (registry.revise owner id text).value.1 = .error (.notFound id) ∧
      (registry.withdraw owner id).value.1 = .error (.notFound id)) ∧
    ∀ cause, Rule.parse text = .error cause →
      (registry.register owner text).value.1 = .error (.badRule cause) ∧
      (registry.Held owner id →
        (registry.revise owner id text).value.1 = .error (.badRule cause)) := by
  refine ⟨h.register_allOrNothing owner text, registry.revise_allOrNothing owner id text,
    registry.withdraw_allOrNothing owner id, ?_, ?_⟩
  · intro hheld
    rw [revise_of_not_held hheld, withdraw_of_not_held hheld]
    exact ⟨rfl, rfl⟩
  · intro cause hparse
    refine ⟨?_, fun hheld => ?_⟩
    · rw [value_register_of_error hparse]
    · rw [value_revise_of_error hheld hparse]

theorem changes_all_or_nothing_beside_foreign_rule :
    let rule : Rule := ⟨[.leaf (.number 1)], .lt, [.leaf .total]⟩
    let registry : Registry := ⟨(RuleBook.empty.perform (.add "b" rule)).2, .reject⟩
    registry.Reachable ∧
    (registry.revise "a" 1 "1 <").value = (.error (.notFound 1), registry) ∧
    (registry.register "a" "1 <").value = (.error (.badRule .notInFormat), registry) ∧
    (∃ entry, (registry.register "a" "1 < 2").value.1 = .ok entry) ∧
    ∃ entry, (registry.withdraw "b" 1).value.1 = .ok entry := by
  intro rule registry
  have hreach : registry.Reachable :=
    .opened (.perform .empty (.add "b" rule) fun _ => by decide) .reject
  have hget : registry.book.get? 1 = some ⟨1, "b", rule⟩ := by decide +kernel
  have hforeign : ¬registry.Held "a" 1 := by
    rintro ⟨other, hother⟩
    rw [hget] at hother
    simp at hother
  have hbad : Rule.parse "1 <" = .error .notInFormat := by decide +kernel
  have hgood : Rule.parse "1 < 2" = .ok ⟨[.leaf (.number 1)], .lt, [.leaf (.number 2)]⟩ := by
    decide +kernel
  obtain ⟨hregister, hrevise, -, hmissing, hrefused⟩ := changes_all_or_nothing hreach "a" "1 <" 1
  obtain ⟨hregister', -⟩ := changes_all_or_nothing hreach "a" "1 < 2" 1
  obtain ⟨-, -, hwithdraw, -⟩ := changes_all_or_nothing hreach "b" "" 1
  have hnotFound := (hmissing hforeign).1
  have hnotRead := (hrefused _ hbad).1
  exact ⟨hreach, Prod.ext hnotFound (hrevise.of_refusal _ hnotFound),
    Prod.ext hnotRead (hregister.of_refusal _ hnotRead), hregister'.succeeds_iff.mpr ⟨_, hgood⟩,
    hwithdraw.succeeds_iff.mpr ⟨rule, hget⟩⟩

end Registry

end TextRules
