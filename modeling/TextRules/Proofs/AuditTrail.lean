import Mathlib.Data.List.Basic
import TextRules.Proofs.Changes
import TextRules.Proofs.Isolation

namespace TextRules

/-!
# The audit trail

What a registry reports at the level of information or above tells which rules were stored, updated
and deleted, and which texts were rejected, and nothing else.

* `Registry.served` — the ways in which one request can be served, each with its reply, its effect
  and its record.
* `Registry.Served.change_cases` — the change that is told is the one that was made.
* `Registry.audit_serveAll` — the records of a run, from its requests and their replies alone.
* `Registry.Reachable.follows_serveAll` — the ids after a run, from those before it and the changes.
* `Registry.log_is_audit_trail` — all of this together, for every run.
-/

/-! ### Rejections -/

/-- A text that was refused for a rule, whether a new one or one in the place of another, and the
    cause. -/
inductive Rejection
  | ofNew (owner text : String) (cause : RuleError)
  | ofUpdate (id : RuleId) (text : String) (cause : RuleError)

/-- The record of a rejection. -/
def Rejection.record : Rejection → Log.Record
  | .ofNew owner text cause =>
    ⟨.warn, .service, s!"Rejected rule '{text}' for {owner}: {cause.message}"⟩
  | .ofUpdate id text cause =>
    ⟨.warn, .service, s!"Rejected update of rule {id.text} to '{text}': {cause.message}"⟩

/-! ### Requests and their replies -/

/-- Whether a request only asks for what is held. -/
def Request.reads : Request → Bool
  | .list _ | .check _ _ | .checkAll _ _ => true
  | .register _ _ | .revise _ _ _ | .withdraw _ _ => false

/-- A request, the registry that it met, and the reply to it. -/
structure Exchange where
  before : Registry
  request : Request
  reply : Reply

namespace Exchange

/-- The change that a reply tells: that of the entry that was registered, revised or withdrawn. -/
def change? (x : Exchange) : Option Change :=
  match x.request, x.reply with
  | .register _ _, .entry (.ok entry) => some ⟨.stored, entry.id, entry.owner⟩
  | .revise _ _ _, .entry (.ok entry) => some ⟨.updated, entry.id, entry.owner⟩
  | .withdraw _ _, .entry (.ok entry) => some ⟨.deleted, entry.id, entry.owner⟩
  | _, _ => none

/-- The rejection of a text: of one that was to be registered, or of one that was to replace a rule
    that the owner held. -/
def rejection? (x : Exchange) : Option Rejection :=
  match x.request with
  | .register owner text =>
    match Rule.parse text with
    | .error cause => some (.ofNew owner text cause)
    | .ok _ => none
  | .revise owner id text =>
    if x.before.holds owner id then
      match Rule.parse text with
      | .error cause => some (.ofUpdate id text cause)
      | .ok _ => none
    else none
  | .withdraw _ _ | .list _ | .check _ _ | .checkAll _ _ => none

/-- What is put on record about an exchange. -/
def audit (x : Exchange) : List Log.Record :=
  (x.rejection?.map Rejection.record).toList ++ (x.change?.map Change.record).toList

/-- The records of an exchange about changes. -/
theorem filter_audit_info (x : Exchange) :
    x.audit.filter (fun r => r.level = .info ∧ r.source = .service) =
      x.change?.toList.map Change.record := by
  rw [audit, List.filter_append]
  rcases x.rejection? with _ | (_ | _) <;> cases x.change? <;> rfl

/-- The records of an exchange about rejected texts. -/
theorem filter_audit_warn (x : Exchange) :
    x.audit.filter (fun r => r.level = .warn) = x.rejection?.toList.map Rejection.record := by
  rw [audit, List.filter_append]
  rcases x.rejection? with _ | (_ | _) <;> cases x.change? <;> rfl

end Exchange

namespace Registry

/-- A request to a registry, with its reply. -/
def exchange (registry : Registry) (request : Request) : Exchange :=
  ⟨registry, request, (registry.serve request).value.1⟩

/-- The exchanges of a run. -/
def exchanges (registry : Registry) : List Request → List Exchange
  | [] => []
  | request :: rest =>
    registry.exchange request :: (registry.serve request).value.2.exchanges rest

end Registry

/-! ### What is put on record -/

/-- The records at the level of information or above, which leaves out those for debugging. -/
def Log.audit (records : List Log.Record) : List Log.Record :=
  records.filter fun r => r.level.rank ≤ Log.Level.info.rank

namespace Log

@[simp] theorem audit_nil : audit [] = [] := rfl

@[simp] theorem audit_append (first second : List Record) :
    audit (first ++ second) = audit first ++ audit second :=
  List.filter_append first second

/-- What only records at these levels can meet can be looked for among them. -/
theorem filter_audit {p : Record → Bool} (hp : ∀ r, p r = true → r.level.rank ≤ Level.info.rank)
    (records : List Record) : (audit records).filter p = records.filter p := by
  rw [audit, List.filter_filter]
  refine List.filter_congr fun r _ => ?_
  cases h : p r with
  | false => rfl
  | true => simp [hp r h]

end Log

/-- Reading a rule is reported for debugging only. -/
theorem Rule.audit_read (text : String) : Log.audit (Rule.read text).records = [] := by
  unfold Rule.read
  split
  · cases Rule.parse text <;> rfl
  · rfl

/-- So is checking one. -/
theorem Rule.audit_check (s : Subject) (rule : Rule) :
    Log.audit (Rule.check s rule).records = [] := by
  unfold Rule.check
  cases Rule.compare s rule <;> rfl

theorem Logged.audit_forEach {α β ε : Type} {f : α → Logged (Except ε β)}
    (h : ∀ x, Log.audit (f x).records = []) (xs : List α) :
    Log.audit (Logged.forEach f xs).records = [] := by
  induction xs with
  | nil => rfl
  | cons x rest ih =>
    rw [forEach, records_bind, Log.audit_append, h]
    cases (f x).value with
    | error cause => rfl
    | ok b => simpa using ih

namespace Registry

/-! ### One request -/

theorem audit_checkEntries (policy : EmptyPolicy) (entries : List Entry) (text : String) :
    Log.audit (checkEntries policy entries text).records = [] :=
  Logged.audit_forEach (fun entry => by rw [Logged.records_map, Rule.audit_check]) entries

theorem audit_check (registry : Registry) (owner text : String) :
    Log.audit (registry.check owner text).records = [] := by
  rw [check, Logged.records_bind, Log.audit_append, audit_checkEntries]
  rfl

theorem audit_checkAll (registry : Registry) (owner : String) (texts : List String) :
    Log.audit (registry.checkAll owner texts).records = [] :=
  Logged.audit_forEach (audit_checkEntries _ _) texts

/-- Every way in which a request is served: with the reply, the registry after it, and what is put
    on record at the level of information or above. -/
inductive Served (registry : Registry) :
    Request → Reply → Registry → List Log.Record → Prop
  | stored {owner text : String} {rule : Rule} (hparse : Rule.parse text = .ok rule) :
      Served registry (.register owner text)
        (.entry (.ok ⟨registry.book.lastId + 1, owner, rule⟩))
        { registry with book := (registry.book.add owner rule).2 }
        [Change.record ⟨.stored, registry.book.lastId + 1, owner⟩]
  | rejected {owner text : String} {cause : RuleError} (hparse : Rule.parse text = .error cause) :
      Served registry (.register owner text) (.entry (.error (.badRule cause))) registry
        [(Rejection.ofNew owner text cause).record]
  | updated {owner text : String} {id : RuleId} {rule : Rule} {next : RuleBook}
      (hheld : registry.Held owner id) (hparse : Rule.parse text = .ok rule)
      (hreplace : registry.book.replace? id rule = some (⟨id, owner, rule⟩, next)) :
      Served registry (.revise owner id text) (.entry (.ok ⟨id, owner, rule⟩))
        { registry with book := next } [Change.record ⟨.updated, id, owner⟩]
  | updateRejected {owner text : String} {id : RuleId} {cause : RuleError}
      (hheld : registry.Held owner id) (hparse : Rule.parse text = .error cause) :
      Served registry (.revise owner id text) (.entry (.error (.badRule cause))) registry
        [(Rejection.ofUpdate id text cause).record]
  | updateMissed {owner text : String} {id : RuleId} (hheld : ¬registry.Held owner id) :
      Served registry (.revise owner id text) (.entry (.error (.notFound id))) registry []
  | deleted {owner : String} {id : RuleId} {rule : Rule} {next : RuleBook}
      (hremove : registry.book.remove? id = some (⟨id, owner, rule⟩, next)) :
      Served registry (.withdraw owner id) (.entry (.ok ⟨id, owner, rule⟩))
        { registry with book := next } [Change.record ⟨.deleted, id, owner⟩]
  | deletionMissed {owner : String} {id : RuleId} (hheld : ¬registry.Held owner id) :
      Served registry (.withdraw owner id) (.entry (.error (.notFound id))) registry []
  | read {request : Request} {reply : Reply} (hreads : request.reads = true) :
      Served registry request reply registry []

theorem served_register (registry : Registry) (owner text : String) :
    Served registry (.register owner text) (.entry (registry.register owner text).value.1)
      (registry.register owner text).value.2
      (Log.audit (registry.register owner text).records) := by
  rw [records_register, Log.audit_append, Rule.audit_read, List.nil_append]
  cases hparse : Rule.parse text with
  | error cause =>
    rw [value_register_of_error hparse]
    exact .rejected hparse
  | ok rule =>
    rw [value_register_of_ok hparse]
    exact .stored hparse

theorem served_revise (registry : Registry) (owner : String) (id : RuleId) (text : String) :
    Served registry (.revise owner id text) (.entry (registry.revise owner id text).value.1)
      (registry.revise owner id text).value.2
      (Log.audit (registry.revise owner id text).records) := by
  by_cases hheld : registry.Held owner id
  · rw [records_revise_of_held hheld, Log.audit_append, Rule.audit_read, List.nil_append]
    cases hparse : Rule.parse text with
    | error cause =>
      rw [value_revise_of_error hheld hparse]
      exact .updateRejected hheld hparse
    | ok rule =>
      obtain ⟨next, hreplace⟩ := hheld.replace? rule
      rw [value_revise_of_ok hheld hparse hreplace]
      exact .updated hheld hparse hreplace
  · rw [revise_of_not_held hheld]
    exact .updateMissed hheld

theorem served_withdraw (registry : Registry) (owner : String) (id : RuleId) :
    Served registry (.withdraw owner id) (.entry (registry.withdraw owner id).value.1)
      (registry.withdraw owner id).value.2 (Log.audit (registry.withdraw owner id).records) := by
  by_cases hheld : registry.Held owner id
  · obtain ⟨rule, next, -, hremove⟩ := hheld.remove?
    rw [value_withdraw_of_held hheld hremove, records_withdraw_of_held hheld]
    exact .deleted hremove
  · rw [withdraw_of_not_held hheld]
    exact .deletionMissed hheld

/-- **One request** is served in one of these ways. -/
theorem served (registry : Registry) (request : Request) :
    Served registry request (registry.serve request).value.1 (registry.serve request).value.2
      (Log.audit (registry.serve request).records) := by
  cases request with
  | register owner text => simpa [serve] using registry.served_register owner text
  | revise owner id text => simpa [serve] using registry.served_revise owner id text
  | withdraw owner id => simpa [serve] using registry.served_withdraw owner id
  | list owner => exact .read rfl
  | check owner text =>
    have hquiet : Log.audit (registry.serve (.check owner text)).records = [] := by
      simpa [serve] using registry.audit_check owner text
    rw [hquiet]
    exact .read rfl
  | checkAll owner texts =>
    have hquiet : Log.audit (registry.serve (.checkAll owner texts)).records = [] := by
      simpa [serve] using registry.audit_checkAll owner texts
    rw [hquiet]
    exact .read rfl

section Served

variable {registry next : Registry} {request : Request} {reply : Reply}
  {records : List Log.Record}

/-- What is put on record can be told from the request and its reply. -/
theorem Served.records_eq (h : Served registry request reply next records) :
    records = Exchange.audit ⟨registry, request, reply⟩ := by
  cases h with
  | stored hparse => simp [Exchange.audit, Exchange.rejection?, Exchange.change?, hparse]
  | rejected hparse => simp [Exchange.audit, Exchange.rejection?, Exchange.change?, hparse]
  | updated hheld hparse hreplace =>
    simp [Exchange.audit, Exchange.rejection?, Exchange.change?, hparse]
  | updateRejected hheld hparse =>
    simp [Exchange.audit, Exchange.rejection?, Exchange.change?, hparse, holds_iff.mpr hheld]
  | updateMissed hheld =>
    simp [Exchange.audit, Exchange.rejection?, Exchange.change?, mt holds_iff.mp hheld]
  | deleted hremove => simp [Exchange.audit, Exchange.rejection?, Exchange.change?]
  | deletionMissed hheld => simp [Exchange.audit, Exchange.rejection?, Exchange.change?]
  | read hreads =>
    cases request with
    | register _ _ | revise _ _ _ | withdraw _ _ => cases hreads
    | list _ | check _ _ | checkAll _ _ => rfl

/-- Nothing is put on record where only something is read, or nothing is found. -/
theorem Served.records_eq_nil (h : Served registry request reply next records)
    (hquiet : request.reads = true ∨ ∃ id, reply = .entry (.error (.notFound id))) :
    records = [] := by
  cases h with
  | stored _ | rejected _ | updated _ _ _ | updateRejected _ _ | deleted _ =>
    obtain hreads | ⟨id, hreply⟩ := hquiet
    · cases hreads
    · cases hreply
  | updateMissed _ | deletionMissed _ | read _ => rfl

/-- **What a request changes** is what is told: nothing, a rule that is stored under the next id, a
    rule that is put in the place of one that was held, or a rule that is taken out. -/
theorem Served.change_cases (h : Served registry request reply next records) :
    Exchange.change? ⟨registry, request, reply⟩ = none ∧ next = registry ∨
    (∃ owner rule, request.adds = true ∧ next.book = (registry.book.add owner rule).2 ∧
      Exchange.change? ⟨registry, request, reply⟩ =
        some ⟨.stored, registry.book.lastId + 1, owner⟩) ∨
    (∃ id owner rule entry, registry.book.replace? id rule = some (entry, next.book) ∧
      Exchange.change? ⟨registry, request, reply⟩ = some ⟨.updated, id, owner⟩) ∨
    ∃ id owner entry, registry.book.remove? id = some (entry, next.book) ∧
      Exchange.change? ⟨registry, request, reply⟩ = some ⟨.deleted, id, owner⟩ := by
  cases h with
  | @stored owner text rule hparse =>
    exact .inr (.inl ⟨owner, rule, by rw [Request.adds, hparse]; rfl, rfl, rfl⟩)
  | @updated owner text id rule _ hheld hparse hreplace =>
    exact .inr (.inr (.inl ⟨id, owner, rule, _, hreplace, rfl⟩))
  | @deleted owner id _ _ hremove =>
    exact .inr (.inr (.inr ⟨id, owner, _, hremove, rfl⟩))
  | rejected _ | updateRejected _ _ | updateMissed _ | deletionMissed _ => exact .inl ⟨rfl, rfl⟩
  | read hreads =>
    cases request with
    | register _ _ | revise _ _ _ | withdraw _ _ => cases hreads
    | list _ | check _ _ | checkAll _ _ => exact .inl ⟨rfl, rfl⟩

/-- Whether an id is held after a request can be told from the change. -/
theorem Served.isSome_get? (h : Served registry request reply next records) (id : RuleId) :
    (next.book.get? id).isSome =
      (Exchange.change? ⟨registry, request, reply⟩).toList.foldl (Change.holdsAfter id)
        (registry.book.get? id).isSome := by
  obtain ⟨hchange, rfl⟩ | ⟨owner, rule, -, hbook, hchange⟩ |
    ⟨other, owner, rule, entry, hreplace, hchange⟩ | ⟨other, owner, entry, hremove, hchange⟩ :=
    h.change_cases
  · rw [hchange]
    rfl
  · rw [hchange, hbook, RuleBook.get?_add]
    by_cases hid : id = registry.book.lastId + 1
    · simp [Change.holdsAfter, RuleBook.add, hid]
    · simp [Change.holdsAfter, RuleBook.add, hid]
  · rw [hchange, RuleBook.get?_of_replace? hreplace]
    obtain ⟨old, hold, -⟩ := RuleBook.entry_of_replace? hreplace
    by_cases hid : id = other
    · simp [Change.holdsAfter, hid, hold]
    · simp [Change.holdsAfter, hid]
  · rw [hchange, RuleBook.get?_of_remove? hremove]
    by_cases hid : id = other
    · simp [Change.holdsAfter, hid]
    · simp [Change.holdsAfter, hid]

/-- So are the ids in use. -/
theorem Served.follows (h : Served registry request reply next records)
    (hreach : registry.Reachable)
    (left : request.adds = true → registry.book.lastId.toNat + 1 < 2 ^ 64) :
    registry.book.Follows (Exchange.change? ⟨registry, request, reply⟩).toList next.book := by
  obtain ⟨hchange, rfl⟩ | ⟨owner, rule, hadds, hbook, hchange⟩ |
    ⟨id, owner, rule, entry, hreplace, hchange⟩ | ⟨id, owner, entry, hremove, hchange⟩ :=
    h.change_cases
  · rw [hchange]
    exact .refl next.book
  · rw [hchange, hbook]
    exact RuleBook.follows_add hreach.book (left hadds) owner rule
  · rw [hchange]
    exact RuleBook.follows_replace? hreplace
  · rw [hchange]
    exact RuleBook.follows_remove? hreach.book hremove

end Served

/-! ### Runs -/

variable {registry : Registry}

/-- The changes that the replies of a run tell. -/
def changes (registry : Registry) (requests : List Request) : List Change :=
  (registry.exchanges requests).filterMap Exchange.change?

theorem changes_cons (registry : Registry) (request : Request) (rest : List Request) :
    registry.changes (request :: rest) =
      (registry.exchange request).change?.toList ++
        (registry.serve request).value.2.changes rest := by
  rw [changes, exchanges, List.filterMap_cons]
  cases (registry.exchange request).change? <;> rfl

theorem value_serveAll_cons (registry : Registry) (request : Request) (rest : List Request) :
    (registry.serveAll (request :: rest)).value =
      ((registry.serve request).value.1 ::
          ((registry.serve request).value.2.serveAll rest).value.1,
        ((registry.serve request).value.2.serveAll rest).value.2) := rfl

theorem records_serveAll_cons (registry : Registry) (request : Request) (rest : List Request) :
    (registry.serveAll (request :: rest)).records = (registry.serve request).records ++
      ((registry.serve request).value.2.serveAll rest).records := by
  simp [serveAll]

/-- The exchanges of a run are its requests with their replies. -/
theorem exchanges_eq (registry : Registry) (requests : List Request) :
    (registry.exchanges requests).map Exchange.request = requests ∧
      (registry.exchanges requests).map Exchange.reply = (registry.serveAll requests).value.1 := by
  induction requests generalizing registry with
  | nil => exact ⟨rfl, rfl⟩
  | cons request rest ih =>
    obtain ⟨hrequests, hreplies⟩ := ih (registry.serve request).value.2
    rw [exchanges, List.map_cons, List.map_cons, hrequests, hreplies, value_serveAll_cons]
    exact ⟨rfl, rfl⟩

/-- Each exchange of a run is what one request comes to. -/
theorem eq_exchange_of_mem {requests : List Request} {x : Exchange}
    (h : x ∈ registry.exchanges requests) : x = x.before.exchange x.request := by
  induction requests generalizing registry with
  | nil => cases h
  | cons request rest ih =>
    rw [exchanges] at h
    obtain rfl | h := List.mem_cons.mp h
    · rfl
    · exact ih h

/-- **The records of a run** at the level of information or above are those of its exchanges, in
    their order. -/
theorem audit_serveAll (registry : Registry) (requests : List Request) :
    Log.audit (registry.serveAll requests).records =
      (registry.exchanges requests).flatMap Exchange.audit := by
  induction requests generalizing registry with
  | nil => rfl
  | cons request rest ih =>
    rw [records_serveAll_cons, Log.audit_append, ih, (registry.served request).records_eq,
      exchanges, List.flatMap_cons]
    rfl

/-- Records that are looked for at these levels can be looked for exchange by exchange. -/
theorem filter_records_serveAll {p : Log.Record → Bool}
    (hp : ∀ r, p r = true → r.level.rank ≤ Log.Level.info.rank) (registry : Registry)
    (requests : List Request) :
    (registry.serveAll requests).records.filter p =
      (registry.exchanges requests).flatMap fun x => x.audit.filter p := by
  rw [← Log.filter_audit hp, audit_serveAll, List.filter_flatMap]

/-- Whether an id is held after a run can be told from the changes. -/
theorem isSome_get?_serveAll (registry : Registry) (requests : List Request) (id : RuleId) :
    ((registry.serveAll requests).value.2.book.get? id).isSome =
      (registry.changes requests).foldl (Change.holdsAfter id) (registry.book.get? id).isSome := by
  induction requests generalizing registry with
  | nil => rfl
  | cons request rest ih =>
    rw [value_serveAll_cons, changes_cons, List.foldl_append, ih,
      (registry.served request).isSome_get? id]
    rfl

/-- **The ids after a run.** As long as ids are left, a run changes the ids in use as it tells. -/
theorem Reachable.follows_serveAll (h : registry.Reachable) (requests : List Request)
    (left : registry.book.lastId.toNat + requests.countP Request.adds < 2 ^ 64) :
    registry.book.Follows (registry.changes requests)
      (registry.serveAll requests).value.2.book := by
  induction requests generalizing registry with
  | nil => exact .refl registry.book
  | cons request rest ih =>
    rw [List.countP_cons] at left
    have hcount := registry.toNat_lastId_serve_le request
    have hroom : request.adds = true → registry.book.lastId.toNat + 1 < 2 ^ 64 := by
      intro hadds
      rw [if_pos hadds] at left
      omega
    rw [changes_cons, value_serveAll_cons]
    exact ((registry.served request).follows h hroom).trans (ih (h.served request hroom) (by omega))

/-- **The log is an audit trail.** Whatever is asked of whatever registry, its records of level
    information are, in their order, one for each rule that was stored, updated or deleted by a
    request that succeeded, with the id and the owner of the rule, and they can be read back.  The
    warnings are, in their order, one for each text that was to be registered and is not a rule, and
    one for each such text that was to replace a rule that the owner held.  Where something is only
    read, or nothing is found, nothing is recorded at these levels.

    The same changes lead from the ids that are held at first to those that are held at the end,
    step by step.  As long as ids are left, none is given out again: the ids in use at the end are
    those in use at first, then those that were stored, without those that were deleted. -/
theorem log_is_audit_trail (registry : Registry) (requests : List Request) :
    let run := registry.serveAll requests
    let exchanges := registry.exchanges requests
    let changes := registry.changes requests
    (exchanges.map Exchange.request = requests ∧
      exchanges.map Exchange.reply = run.value.1) ∧
    run.records.filter (fun r => r.level = .info ∧ r.source = .service) =
      changes.map Change.record ∧
    Function.Injective Change.record ∧
    run.records.filter (fun r => r.level = .warn) =
      (exchanges.filterMap Exchange.rejection?).map Rejection.record ∧
    (∀ x ∈ exchanges,
      x.request.reads = true ∨ (∃ id, x.reply = .entry (.error (.notFound id))) →
        Log.audit (x.before.serve x.request).records = []) ∧
    (∀ id, (run.value.2.book.get? id).isSome =
      changes.foldl (Change.holdsAfter id) (registry.book.get? id).isSome) ∧
    (registry.Reachable →
      registry.book.lastId.toNat + requests.countP Request.adds < 2 ^ 64 →
        run.value.2.book.ids = (registry.book.ids ++ Change.idsOf .stored changes).filter fun id =>
          id ∉ Change.idsOf .deleted changes) := by
  intro run exchanges changes
  refine ⟨registry.exchanges_eq requests, ?_, Change.record_injective, ?_, ?_,
    registry.isSome_get?_serveAll requests, fun h left => (h.follows_serveAll requests left).ids_eq⟩
  · have hlevel : ∀ r : Log.Record, decide (r.level = .info ∧ r.source = .service) = true →
        r.level.rank ≤ Log.Level.info.rank := by
      intro r hr
      rw [decide_eq_true_eq] at hr
      exact Nat.le_of_eq (congrArg Log.Level.rank hr.1)
    rw [filter_records_serveAll hlevel]
    simp only [Exchange.filter_audit_info, changes, Registry.changes,
      List.filterMap_eq_flatMap_toList, List.map_flatMap]
  · have hlevel : ∀ r : Log.Record, decide (r.level = .warn) = true →
        r.level.rank ≤ Log.Level.info.rank := by
      intro r hr
      rw [decide_eq_true_eq] at hr
      rw [hr]
      decide
    rw [filter_records_serveAll hlevel]
    simp only [Exchange.filter_audit_warn, exchanges, List.filterMap_eq_flatMap_toList,
      List.map_flatMap]
  · intro x hx hquiet
    rw [eq_exchange_of_mem hx] at hquiet
    exact (x.before.served x.request).records_eq_nil hquiet

theorem log_is_audit_trail_beside_refusals :
    let rule : Rule := ⟨[.leaf (.number 1)], .lt, [.leaf .total]⟩
    let registry : Registry := ⟨(RuleBook.empty.perform (.add "b" rule)).2, .reject⟩
    let run := registry.serveAll [.register "a" "1 < 2", .register "a" "1 <", .revise "a" 1 "3 = 3",
      .revise "a" 2 "max(1) = 1", .revise "a" 2 "4 > 3", .check "a" "7", .withdraw "b" 1]
    registry.Reachable ∧
    run.records.filter (fun r => r.level = .info ∧ r.source = .service) =
      [⟨.info, .service, "Stored rule 2 for a"⟩, ⟨.info, .service, "Updated rule 2 for a"⟩,
        ⟨.info, .service, "Deleted rule 1 for b"⟩] ∧
    run.records.filter (fun r => r.level = .warn) =
      [⟨.warn, .service, "Rejected rule '1 <' for a: Rule is not in format"⟩,
        ⟨.warn, .service, "Rejected update of rule 2 to 'max(1) = 1': " ++
          "Invalid Rule: left operand: expression is missing an operand"⟩] ∧
    run.value.2.book.ids = [2] := by
  intro rule registry run
  have hreach : registry.Reachable :=
    .opened (.perform .empty (.add "b" rule) fun _ => by decide) .reject
  obtain ⟨-, hinfo, -, hwarn, -, -, hids⟩ := log_is_audit_trail registry
    [.register "a" "1 < 2", .register "a" "1 <", .revise "a" 1 "3 = 3",
      .revise "a" 2 "max(1) = 1", .revise "a" 2 "4 > 3", .check "a" "7", .withdraw "b" 1]
  refine ⟨hreach, hinfo.trans ?_, hwarn.trans ?_, (hids hreach ?_).trans ?_⟩
  · decide +kernel
  · decide +kernel
  · decide +kernel
  · decide +kernel

end Registry

end TextRules
