import TextRules.CommandLine.Manual
import TextRules.Registry
import TextRules.Stored.Rule

namespace TextRules

/-!
# Commands

What the program can be asked to do, apart from where its input comes from and how its answer is
shown.
-/

/-- Why a file or the standard input could not be read. -/
inductive InputError
  | noSuchFile
  | notUnicode
  | other (text : String)
  deriving DecidableEq

/-- The wording of an input error. -/
def InputError.message : InputError → String
  | .noSuchFile => "No such file or directory (os error 2)"
  | .notUnicode => "stream did not contain valid UTF-8"
  | .other text => text

/-- Why a command fails. -/
inductive CommandError
  | badRule (cause : RuleError)
  | badOperand (cause : WordError)
  | notEvaluable (cause : EvalError)
  | refused (cause : Refusal)
  | badDocument (cause : ReadError)
  | unreadable (cause : InputError)
  | noInput
  | unknownPage (name : String)
  deriving DecidableEq

/-- The wording of a command error. -/
def CommandError.message : CommandError → String
  | .badRule cause => s!"Parse error: {cause.message}"
  | .badOperand cause => s!"Tokenize error: {cause.message}"
  | .notEvaluable cause => s!"Evaluation error: {cause.message}"
  | .refused cause => s!"Evaluation error: {cause.message}"
  | .badDocument cause => "Invalid JSON: " ++ cause.message?.getD "the document is malformed"
  | .unreadable cause => s!"IO error: {cause.message}"
  | .noInput => "No input provided. Use --input or pipe text to stdin."
  | .unknownPage name =>
    s!"Unknown category: '{name}'\nRun 'rulecheck docs' to see available categories."

namespace Command

/-- The tokens of an operand. -/
def tokenize (text : String) : Except CommandError Operand :=
  (Operand.read text).mapError .badOperand

/-- The rule that a text writes. -/
def parse (text : String) : Logged (Except CommandError Rule) :=
  (·.mapError .badRule) <$> Rule.read text

/-- Whether each of several rules holds of a text.  The rules are read before the text is needed. -/
def check (policy : EmptyPolicy) (rules : List String) (input : Option String) :
    Logged (Except CommandError (List Bool)) := do
  match ← Logged.forEach parse rules with
  | .error cause => return .error cause
  | .ok rules =>
    match input with
    | none => return .error .noInput
    | some text => (·.mapError .notEvaluable) <$> Rule.checkAllText policy text rules

/-- The owner of the rules of a batch. -/
def batchOwner : String := "batch"

/-- A registry with the given rules, all of the one owner. -/
def batchRegistry (policy : EmptyPolicy) (rules : List Rule) : Registry :=
  ⟨rules.foldl (fun book rule => (book.add batchOwner rule).2) .empty, policy⟩

/-- Whether each of several stored rules holds of each of several texts.  Both are given as JSON
    documents, and the rules are read first. -/
def batch (policy : EmptyPolicy) (rules : String) (inputs : Option String) :
    Logged (Except CommandError (List (List Bool))) :=
  match Stored.fromText Stored.readRules rules with
  | .error cause => pure (.error (.badDocument cause))
  | .ok rules =>
    match inputs with
    | none => pure (.error .noInput)
    | some inputs =>
      match Stored.fromText Stored.readTexts inputs with
      | .error cause => pure (.error (.badDocument cause))
      | .ok texts =>
        (·.mapError .refused) <$> (batchRegistry policy rules).checkAll batchOwner texts

/-- A page of the manual. -/
def page (name : String) : Except CommandError String :=
  match Manual.find? name with
  | some page => .ok page.text
  | none => .error (.unknownPage name)

end Command

end TextRules
