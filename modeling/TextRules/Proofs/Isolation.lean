import TextRules.Proofs.Requests

namespace TextRules

/-!
# Owners are isolated from each other

All owners share one book and one count of ids.  Still an owner can neither touch nor see what the
others have.

* `Registry.Reachable.rulesOf_serve` — a request leaves the rules of every other owner as they are.
* `Registry.Alike.serve` — two registries that are alike to an owner, with the same policy and the
  same rules of this owner, answer the owner's requests alike and stay alike.  Only a rule that is
  added shows something of the others, its id.
* `Registry.owners_isolated` — both together, for every registry that can come about.
* `Registry.Reachable.repliesTo_eq` — over a whole run, what others do in between makes no
  difference to what an owner is told.
-/

/-! ### The entries of one owner -/

namespace RuleBook

variable {book next : RuleBook} {owner : String} {id : RuleId} {now : Option Entry}

theorem mem_ownedBy_iff {entry : Entry} :
    entry ∈ book.ownedBy owner ↔ book.get? entry.id = some entry ∧ entry.owner = owner := by
  rw [ownedBy, List.mem_filter, mem_entries_iff, decide_eq_true_eq]

/-- The entries of an owner are known from their members. -/
theorem ownedBy_ext (h : ∀ entry, entry ∈ book.ownedBy owner ↔ entry ∈ next.ownedBy owner) :
    book.ownedBy owner = next.ownedBy owner :=
  eq_of_ordered (book.ownedBy_ordered owner) (next.ownedBy_ordered owner) h

/-- The entries of an owner after a change under one id. -/
theorem ChangedAt.mem_ownedBy_iff (h : book.ChangedAt next id now) {entry : Entry} :
    entry ∈ next.ownedBy owner ↔
      if entry.id = id then now = some entry ∧ entry.owner = owner
      else entry ∈ book.ownedBy owner := by
  rw [RuleBook.mem_ownedBy_iff, h entry.id]
  split
  next => rfl
  next => exact RuleBook.mem_ownedBy_iff.symm

/-- A change from something that is not the owner's to something that is not either leaves the
    entries of the owner as they are. -/
theorem ChangedAt.ownedBy_eq (h : book.ChangedAt next id now)
    (hbefore : ∀ entry, book.get? id = some entry → entry.owner ≠ owner)
    (hnow : ∀ entry ∈ now, entry.owner ≠ owner) : next.ownedBy owner = book.ownedBy owner := by
  refine ownedBy_ext fun entry => ?_
  rw [h.mem_ownedBy_iff]
  split
  next hid =>
    constructor
    · rintro ⟨hentry, howner⟩
      exact absurd howner (hnow entry hentry)
    · intro hentry
      obtain ⟨hget, howner⟩ := RuleBook.mem_ownedBy_iff.mp hentry
      rw [hid] at hget
      exact absurd howner (hbefore entry hget)
  next => rfl

/-- The same change keeps two books with the same entries of an owner so. -/
theorem ChangedAt.ownedBy_congr {other otherNext : RuleBook} (h : book.ChangedAt next id now)
    (h' : other.ChangedAt otherNext id now) (heq : book.ownedBy owner = other.ownedBy owner) :
    next.ownedBy owner = otherNext.ownedBy owner := by
  refine ownedBy_ext fun entry => ?_
  rw [h.mem_ownedBy_iff, h'.mem_ownedBy_iff, heq]

end RuleBook

namespace Registry

variable {registry first second : Registry} {owner other text : String} {id : RuleId}

/-! ### What others do -/

/-- **Nobody touches the rules of others.** A request leaves the rules of every owner but the one
    who makes it as they are. -/
theorem Reachable.rulesOf_serve (h : registry.Reachable) (request : Request)
    (hne : request.owner ≠ other) :
    (registry.serve request).value.2.rulesOf other = registry.rulesOf other := by
  obtain heq | ⟨action, hallows, -, heq⟩ := registry.serve_eq_or_after request
  · rw [heq]
  · rw [heq]
    obtain ⟨id, now, hchanged, hid, hnow⟩ := hallows.changedAt
    refine hchanged.ownedBy_eq ?_ ?_
    · intro entry hget
      obtain ⟨rule, hheld⟩ | rfl := hid
      · rw [hheld] at hget
        cases hget
        exact hne
      · -- the next id is free
        rw [h.book.get?_next] at hget
        cases hget
    · intro entry hentry
      rw [(hnow entry hentry).1]
      exact hne

/-! ### What an owner knows -/

/-- Two registries are alike to an owner when they have the same policy and the same rules of this
    owner. -/
structure Alike (owner : String) (first second : Registry) : Prop where
  policy_eq : first.policy = second.policy
  rulesOf_eq : first.rulesOf owner = second.rulesOf owner

theorem Alike.check_eq (h : Alike owner first second) (text : String) :
    first.check owner text = second.check owner text := by
  rw [check, check, h.policy_eq, h.rulesOf_eq]

theorem Alike.checkAll_eq (h : Alike owner first second) (texts : List String) :
    first.checkAll owner texts = second.checkAll owner texts := by
  rw [checkAll, checkAll, h.policy_eq, h.rulesOf_eq]

/-- What an owner holds is among the rules of this owner. -/
theorem held_iff_mem_rulesOf :
    registry.Held owner id ↔ ∃ rule, ⟨id, owner, rule⟩ ∈ registry.rulesOf owner := by
  simp only [Held, rulesOf, RuleBook.mem_ownedBy_iff, and_true]

theorem Alike.held_iff (h : Alike owner first second) :
    first.Held owner id ↔ second.Held owner id := by
  rw [held_iff_mem_rulesOf, held_iff_mem_rulesOf, h.rulesOf_eq]

/-- An owner gets the same answer twice, with the same records, and cannot tell the registries
    apart afterwards. -/
structure SameAnswer {α : Type} (owner : String) (x y : Logged (α × Registry)) : Prop where
  answer_eq : x.value.1 = y.value.1
  records_eq : x.records = y.records
  alike : Alike owner x.value.2 y.value.2

namespace SameAnswer

variable {α β : Type} {x y : Logged (α × Registry)}

theorem of_value {answer : α} (hx : x.value = (answer, first)) (hy : y.value = (answer, second))
    (hrecords : x.records = y.records) (h : Alike owner first second) : SameAnswer owner x y := by
  refine ⟨?_, hrecords, ?_⟩
  · rw [hx, hy]
  · rw [hx, hy]
    exact h

/-- What goes on from the same answer in the same way gives the same answer. -/
theorem map (h : SameAnswer owner x y) (f : α → β) :
    SameAnswer owner ((fun (a, next) => (f a, next)) <$> x)
      ((fun (a, next) => (f a, next)) <$> y) := by
  refine ⟨congrArg f h.answer_eq, ?_, h.alike⟩
  rw [Logged.records_map, Logged.records_map, h.records_eq]

/-- What is read from registries without changing them. -/
theorem of_eq {γ : Type} {a b : Logged γ} (hab : a = b) (f : γ → α)
    (h : Alike owner first second) :
    SameAnswer owner ((fun c => (f c, first)) <$> a) ((fun c => (f c, second)) <$> b) := by
  subst hab
  exact ⟨rfl, rfl, h⟩

end SameAnswer

/-- The same change of both books keeps registries alike. -/
theorem Alike.of_changedAt {next next' : RuleBook} {now : Option Entry}
    (h : Alike owner first second) (hnext : first.book.ChangedAt next id now)
    (hnext' : second.book.ChangedAt next' id now) :
    Alike owner { first with book := next } { second with book := next' } :=
  ⟨h.policy_eq, hnext.ownedBy_congr hnext' h.rulesOf_eq⟩

/-- A text that cannot be read is refused before the book is looked at. -/
theorem Alike.register_of_error (h : Alike owner first second) {cause : RuleError}
    (hparse : Rule.parse text = .error cause) :
    SameAnswer owner (first.register owner text) (second.register owner text) := by
  refine .of_value (value_register_of_error hparse) (value_register_of_error hparse) ?_ h
  simp [register, hparse]

/-- What the owner does not hold is not found, whether somebody else holds it or not; otherwise the
    text decides, and the same stands there afterwards. -/
theorem Alike.revise (h : Alike owner first second) (id : RuleId) (text : String) :
    SameAnswer owner (first.revise owner id text) (second.revise owner id text) := by
  by_cases hheld : first.Held owner id
  · have hheld' := h.held_iff.mp hheld
    have hrecords : (first.revise owner id text).records =
        (second.revise owner id text).records := by
      rw [records_revise_of_held hheld, records_revise_of_held hheld']
    cases hparse : Rule.parse text with
    | error cause =>
      exact .of_value (value_revise_of_error hheld hparse) (value_revise_of_error hheld' hparse)
        hrecords h
    | ok rule =>
      obtain ⟨next, hreplace⟩ := hheld.replace? rule
      obtain ⟨next', hreplace'⟩ := hheld'.replace? rule
      exact .of_value (value_revise_of_ok hheld hparse hreplace)
        (value_revise_of_ok hheld' hparse hreplace') hrecords
        (h.of_changedAt (RuleBook.get?_of_replace? hreplace) (RuleBook.get?_of_replace? hreplace'))
  · have hheld' := h.held_iff.not.mp hheld
    rw [revise_of_not_held hheld, revise_of_not_held hheld']
    exact .of_value rfl rfl rfl h

theorem Alike.withdraw (h : Alike owner first second) (id : RuleId) :
    SameAnswer owner (first.withdraw owner id) (second.withdraw owner id) := by
  by_cases hheld : first.Held owner id
  · have hheld' := h.held_iff.mp hheld
    obtain ⟨rule, next, hget, hremove⟩ := hheld.remove?
    obtain ⟨rule', next', hget', hremove'⟩ := hheld'.remove?
    -- both take out the same rule, since it is among the rules of the owner
    have hmem : (⟨id, owner, rule⟩ : Entry) ∈ second.rulesOf owner := by
      rw [← h.rulesOf_eq]
      exact RuleBook.mem_ownedBy_iff.mpr ⟨hget, rfl⟩
    rw [(RuleBook.mem_ownedBy_iff.mp hmem).1] at hget'
    cases hget'
    refine .of_value (value_withdraw_of_held hheld hremove) (value_withdraw_of_held hheld' hremove')
      ?_ (h.of_changedAt (RuleBook.get?_of_remove? hremove) (RuleBook.get?_of_remove? hremove'))
    rw [records_withdraw_of_held hheld, records_withdraw_of_held hheld']
  · have hheld' := h.held_iff.not.mp hheld
    rw [withdraw_of_not_held hheld, withdraw_of_not_held hheld']
    exact .of_value rfl rfl rfl h

/-- **Nobody sees the rules of others.** A request that adds no rule is answered from what its
    owner knows of the registry. -/
theorem Alike.serve {request : Request} (h : Alike request.owner first second)
    (hadds : request.adds = false) :
    SameAnswer request.owner (first.serve request) (second.serve request) := by
  cases request with
  | register owner text =>
    cases hparse : Rule.parse text with
    | error cause => exact (h.register_of_error hparse).map Reply.entry
    | ok rule =>
      rw [Request.adds, hparse] at hadds
      cases hadds
  | revise owner id text => exact (h.revise id text).map Reply.entry
  | withdraw owner id => exact (h.withdraw id).map Reply.entry
  | list owner => exact .of_eq (congrArg pure h.rulesOf_eq) Reply.entries h
  | check owner text => exact .of_eq (h.check_eq text) Reply.verdicts h
  | checkAll owner texts => exact .of_eq (h.checkAll_eq texts) Reply.rows h

/-- **Owners are isolated from each other.** Whatever one owner asks of a registry, the rules of
    another stay as they are, and so do the answers of this other to both ways of checking.  And
    whatever this other asks that adds no rule, the answer is the same from every registry with the
    same policy and the same rules of theirs, and leaves it so: a rule of somebody else and a rule
    that does not exist cannot be told apart. -/
theorem owners_isolated (h : registry.Reachable) (hne : owner ≠ other) :
    (∀ request : Request, request.owner = owner →
      (registry.serve request).value.2.rulesOf other = registry.rulesOf other ∧
      (∀ text, (registry.serve request).value.2.check other text = registry.check other text) ∧
      ∀ texts,
        (registry.serve request).value.2.checkAll other texts = registry.checkAll other texts) ∧
    ∀ second : Registry, second.policy = registry.policy →
      second.rulesOf other = registry.rulesOf other →
        ∀ request : Request, request.owner = other → request.adds = false →
          (second.serve request).value.1 = (registry.serve request).value.1 ∧
          (second.serve request).records = (registry.serve request).records ∧
          (second.serve request).value.2.rulesOf other =
            (registry.serve request).value.2.rulesOf other := by
  constructor
  · rintro request rfl
    have halike : Alike other (registry.serve request).value.2 registry :=
      ⟨registry.policy_serve request, h.rulesOf_serve request hne⟩
    exact ⟨halike.rulesOf_eq, halike.check_eq, halike.checkAll_eq⟩
  · rintro second hpolicy hrules request rfl hadds
    have halike : Alike request.owner second registry := ⟨hpolicy, hrules⟩
    have hsame := halike.serve hadds
    exact ⟨hsame.answer_eq, hsame.records_eq, hsame.alike.rulesOf_eq⟩

theorem owners_isolated_from_foreign_rule :
    let rule : Rule := ⟨[.leaf (.number 1)], .lt, [.leaf .total]⟩
    let first : Registry :=
      ⟨(RuleBook.empty.performAll [.add "a" rule, .add "b" rule]).2, .reject⟩
    let second : Registry :=
      ⟨(RuleBook.empty.performAll [.add "c" rule, .add "b" rule, .remove 1]).2, .reject⟩
    first.Reachable ∧
    (first.serve (.withdraw "a" 1)).value.2.rulesOf "b" = first.rulesOf "b" ∧
    first.book.get? 1 = some ⟨1, "a", rule⟩ ∧ second.book.get? 1 = none ∧
    (second.serve (.withdraw "b" 1)).value.1 = (first.serve (.withdraw "b" 1)).value.1 := by
  intro rule first second
  have hreach : first.Reachable :=
    .opened (.perform (.perform .empty (.add "a" rule) fun _ => by decide) (.add "b" rule)
      fun _ => by decide +kernel) .reject
  have hrules : second.rulesOf "b" = first.rulesOf "b" := by decide +kernel
  obtain ⟨htouch, hsee⟩ := owners_isolated hreach (show "a" ≠ "b" by decide)
  exact ⟨hreach, (htouch (.withdraw "a" 1) rfl).1, by decide +kernel, by decide +kernel,
    (hsee second rfl hrules (.withdraw "b" 1) rfl rfl).1⟩

/-! ### Whole runs -/

/-- What an owner is told in a run of requests. -/
def repliesTo (registry : Registry) (owner : String) (requests : List Request) : List Reply :=
  ((requests.zip (registry.serveAll requests).value.1).filter fun (request, _) =>
    request.owner = owner).map Prod.snd

theorem repliesTo_cons (registry : Registry) (owner : String) (request : Request)
    (rest : List Request) :
    registry.repliesTo owner (request :: rest) =
      (if request.owner = owner then [(registry.serve request).value.1] else []) ++
        (registry.serve request).value.2.repliesTo owner rest := by
  simp only [repliesTo, serveAll]
  by_cases howner : request.owner = owner
  · simp [howner]
  · simp [howner]

/-- Requests count the ids up by one for each rule that they add, at most. -/
theorem toNat_lastId_serve_le (registry : Registry) (request : Request) :
    (registry.serve request).value.2.book.lastId.toNat ≤
      registry.book.lastId.toNat + if request.adds = true then 1 else 0 := by
  obtain heq | ⟨action, -, hadd, heq⟩ := registry.serve_eq_or_after request
  · rw [heq]
    exact Nat.le_add_right _ _
  · rw [heq]
    refine Nat.le_trans (RuleBook.toNat_lastId_perform_le registry.book action) ?_
    split
    next h => exact Nat.le_of_eq (by rw [if_pos (hadd h)])
    next => exact Nat.le_add_right _ _

/-- **What others do makes no difference.** In a run in which an owner adds no rule, the owner is
    told the same as if nobody else had asked for anything, from any registry that is alike to the
    owner at the start. -/
theorem Reachable.repliesTo_eq (h : first.Reachable) (halike : Alike owner first second)
    (requests : List Request)
    (left : first.book.lastId.toNat + requests.countP Request.adds < 2 ^ 64)
    (hquiet : ∀ request ∈ requests, request.owner = owner → request.adds = false) :
    first.repliesTo owner requests =
      (second.serveAll (requests.filter fun request => request.owner = owner)).value.1 := by
  -- both registries stay alike to the owner, whoever makes the next request
  induction requests generalizing first second with
  | nil => rfl
  | cons request rest ih =>
    rw [List.countP_cons] at left
    have hcount := first.toNat_lastId_serve_le request
    have hnext : (first.serve request).value.2.Reachable := by
      refine h.served request fun hadds => ?_
      rw [if_pos hadds] at left
      omega
    have hrest : ∀ r ∈ rest, r.owner = owner → r.adds = false :=
      fun r hr => hquiet r (List.mem_cons_of_mem _ hr)
    rw [repliesTo_cons]
    by_cases howner : request.owner = owner
    · subst howner
      have hsame := halike.serve (hquiet request List.mem_cons_self rfl)
      rw [List.filter_cons_of_pos (by simp), if_pos rfl, hsame.answer_eq,
        ih hnext hsame.alike (by omega) hrest]
      rfl
    · have hnextAlike : Alike owner (first.serve request).value.2 second :=
        ⟨(first.policy_serve request).trans halike.policy_eq,
          (h.rulesOf_serve request howner).trans halike.rulesOf_eq⟩
      rw [List.filter_cons_of_neg (by simpa using howner), if_neg howner,
        ih hnext hnextAlike (by omega) hrest]
      rfl

end Registry

end TextRules
