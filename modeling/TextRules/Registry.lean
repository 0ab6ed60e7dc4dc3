import TextRules.Registry.RuleBook
import TextRules.Rule.Check
import TextRules.Rule.Reader

namespace TextRules

/-!
# The registry

A registry serves owners who keep rules in a common book.  An owner adds, changes and removes only
rules of their own, and checks texts against them.  To an owner, a rule of somebody else is no
different from one that does not exist.
-/

/-- A book of rules, and the policy under which its rules are checked. -/
structure Registry where
  book : RuleBook
  policy : EmptyPolicy

/-- Why a registry refuses a request. -/
inductive Refusal
  | badRule (cause : RuleError)
  | notEvaluable (id : RuleId) (cause : EvalError)
  | notFound (id : RuleId)
  deriving DecidableEq

/-- The wording of a refusal. -/
def Refusal.message : Refusal → String
  | .badRule cause => cause.message
  | .notEvaluable id cause => s!"rule {id.text}: {cause.message}"
  | .notFound id => s!"rule {id.text} does not exist or does not belong to the owner"

namespace Registry

/-- Whether an owner holds a rule under an id. -/
def holds (registry : Registry) (owner : String) (id : RuleId) : Bool :=
  (registry.book.get? id).any fun entry => entry.owner = owner

theorem holds_iff {registry : Registry} {owner : String} {id : RuleId} :
    registry.holds owner id = true ↔ ∃ rule, registry.book.get? id = some ⟨id, owner, rule⟩ := by
  simp only [holds, Option.any_eq_true, decide_eq_true_eq]
  constructor
  · rintro ⟨entry, found, rfl⟩
    obtain rfl := RuleBook.id_of_get? found
    exact ⟨entry.rule, found⟩
  · rintro ⟨rule, found⟩
    exact ⟨_, found, rfl⟩

/-- Adds the rule that a text writes. -/
def register (registry : Registry) (owner text : String) :
    Logged (Except Refusal Entry × Registry) := do
  match ← Rule.read text with
  | .error cause =>
    Logged.report .warn .service s!"Rejected rule '{text}' for {owner}: {cause.message}"
    return (.error (.badRule cause), registry)
  | .ok rule =>
    let (id, book) := registry.book.add owner rule
    Logged.report .info .service s!"Stored rule {id.text} for {owner}"
    return (.ok ⟨id, owner, rule⟩, { registry with book })

/-- Puts the rule that a text writes in the place of one of the owner's rules. -/
def revise (registry : Registry) (owner : String) (id : RuleId) (text : String) :
    Logged (Except Refusal Entry × Registry) :=
  if registry.holds owner id then do
    match ← Rule.read text with
    | .error cause =>
      Logged.report .warn .service
        s!"Rejected update of rule {id.text} to '{text}': {cause.message}"
      return (.error (.badRule cause), registry)
    | .ok rule =>
      match registry.book.replace? id rule with
      | none => return (.error (.notFound id), registry)
      | some (entry, book) =>
        Logged.report .info .service s!"Updated rule {id.text} for {owner}"
        return (.ok entry, { registry with book })
  else pure (.error (.notFound id), registry)

/-- Removes one of the owner's rules. -/
def withdraw (registry : Registry) (owner : String) (id : RuleId) :
    Logged (Except Refusal Entry × Registry) :=
  if registry.holds owner id then
    match registry.book.remove? id with
    | none => pure (.error (.notFound id), registry)
    | some (entry, book) => do
      Logged.report .info .service s!"Deleted rule {id.text} for {owner}"
      return (.ok entry, { registry with book })
  else pure (.error (.notFound id), registry)

/-- The rules of an owner, the oldest first. -/
def rulesOf (registry : Registry) (owner : String) : List Entry := registry.book.ownedBy owner

/-- Whether each of some rules holds of a text.  The first rule that cannot be evaluated is told. -/
def checkEntries (policy : EmptyPolicy) (entries : List Entry) (text : String) :
    Logged (Except Refusal (List Bool)) :=
  let subject := Subject.ofText policy text
  Logged.forEach
    (fun entry => (·.mapError (.notEvaluable entry.id)) <$> Rule.check subject entry.rule) entries

/-- Whether each of the owner's rules holds of a text. -/
def check (registry : Registry) (owner text : String) : Logged (Except Refusal (List Bool)) := do
  let entries := registry.rulesOf owner
  Logged.report .debug .service s!"Checking {decimalText entries.length} rule(s) of {owner}"
  checkEntries registry.policy entries text

/-- Whether each of the owner's rules holds of each of several texts, one row for each text. -/
def checkAll (registry : Registry) (owner : String) (texts : List String) :
    Logged (Except Refusal (List (List Bool))) :=
  Logged.forEach (checkEntries registry.policy (registry.rulesOf owner)) texts

end Registry

/-! ### Requests -/

/-- What an owner may ask of a registry. -/
inductive Request
  | register (owner text : String)
  | revise (owner : String) (id : RuleId) (text : String)
  | withdraw (owner : String) (id : RuleId)
  | list (owner : String)
  | check (owner text : String)
  | checkAll (owner : String) (texts : List String)
  deriving DecidableEq

/-- What a registry answers. -/
inductive Reply
  | entry (result : Except Refusal Entry)
  | entries (found : List Entry)
  | verdicts (result : Except Refusal (List Bool))
  | rows (result : Except Refusal (List (List Bool)))

namespace Registry

/-- Answers a request. -/
def serve (registry : Registry) : Request → Logged (Reply × Registry)
  | .register owner text => do
    let (result, next) ← registry.register owner text
    return (.entry result, next)
  | .revise owner id text => do
    let (result, next) ← registry.revise owner id text
    return (.entry result, next)
  | .withdraw owner id => do
    let (result, next) ← registry.withdraw owner id
    return (.entry result, next)
  | .list owner => return (.entries (registry.rulesOf owner), registry)
  | .check owner text => return (.verdicts (← registry.check owner text), registry)
  | .checkAll owner texts => return (.rows (← registry.checkAll owner texts), registry)

/-- Answers requests one after the other. -/
def serveAll (registry : Registry) : List Request → Logged (List Reply × Registry)
  | [] => return ([], registry)
  | request :: rest => do
    let (reply, next) ← registry.serve request
    let (replies, last) ← next.serveAll rest
    return (reply :: replies, last)

end Registry

end TextRules
