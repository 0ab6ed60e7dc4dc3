namespace TextRules

/-!
# Log records

What the library reports while it works.  A computation that logs gives its records next to its
value, in the order in which they arose; the records never decide anything.
-/

namespace Log

/-- How important a record is, the most important first. -/
inductive Level
  | error
  | warn
  | info
  | debug
  | trace
  deriving DecidableEq

/-- The place of a level, counted from the most important. -/
def Level.rank : Level → Nat
  | .error => 1
  | .warn => 2
  | .info => 3
  | .debug => 4
  | .trace => 5

/-- The name of a level. -/
def Level.name : Level → String
  | .error => "ERROR"
  | .warn => "WARN"
  | .info => "INFO"
  | .debug => "DEBUG"
  | .trace => "TRACE"

/-- The part of the library that a record comes from. -/
inductive Source
  | lexer
  | parser
  | evaluator
  | service
  | program
  deriving DecidableEq

/-- The name of a source. -/
def Source.name : Source → String
  | .lexer => "lexer"
  | .parser => "parser"
  | .evaluator => "evaluator"
  | .service => "service"
  | .program => "rulecheck"

/-- One report. -/
structure Record where
  level : Level
  source : Source
  text : String
  deriving DecidableEq

end Log

/-- A value with the records that arose on the way to it. -/
structure Logged (α : Type) where
  value : α
  records : List Log.Record

namespace Logged

variable {α β ε : Type}

instance : Monad Logged where
  pure a := ⟨a, []⟩
  bind x f :=
    let y := f x.value
    ⟨y.value, x.records ++ y.records⟩

/-- Adds one record. -/
def report (level : Log.Level) (source : Log.Source) (text : String) : Logged Unit :=
  ⟨(), [⟨level, source, text⟩]⟩

/-- Works through a list in order, up to the first failure. -/
def forEach (f : α → Logged (Except ε β)) : List α → Logged (Except ε (List β))
  | [] => pure (.ok [])
  | a :: rest => do
    match ← f a with
    | .error e => return .error e
    | .ok b => return (← forEach f rest).map fun bs => b :: bs

/-! ### Values and records of composed computations -/

@[simp] theorem value_pure (a : α) : (pure a : Logged α).value = a := rfl

@[simp] theorem records_pure (a : α) : (pure a : Logged α).records = [] := rfl

@[simp] theorem value_bind (x : Logged α) (f : α → Logged β) :
    (x >>= f).value = (f x.value).value := rfl

@[simp] theorem records_bind (x : Logged α) (f : α → Logged β) :
    (x >>= f).records = x.records ++ (f x.value).records := rfl

@[simp] theorem value_map (f : α → β) (x : Logged α) : (f <$> x).value = f x.value := rfl

@[simp] theorem records_map (f : α → β) (x : Logged α) : (f <$> x).records = x.records :=
  List.append_nil _

theorem ext {x y : Logged α} (hv : x.value = y.value) (hr : x.records = y.records) : x = y := by
  cases x; cases y; simp_all

instance : LawfulMonad Logged := LawfulMonad.mk' Logged
  (fun x => by apply ext <;> simp)
  (fun a f => by apply ext <;> simp)
  (fun x f g => by apply ext <;> simp)

end Logged

end TextRules
