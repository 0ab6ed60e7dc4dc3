import TextRules.Evaluation
import TextRules.Log

namespace TextRules

/-!
# Command line arguments

Arguments are read from left to right on two levels: first those of the program, up to the name of
a command, then those of the command.  The options for logging, policy and layout may stand on
either level.  What is wrong with the arguments is not told apart: the program only refuses.
-/

namespace Arguments

/-- An option of the program or of a command. -/
inductive Opt
  | logLevel
  | policy
  | pretty
  | input
  | rules
  | version
  | help
  deriving DecidableEq

namespace Opt

/-- The name after two hyphens. -/
def name : Opt → String
  | .logLevel => "log-level"
  | .policy => "empty-aggregates"
  | .pretty => "pretty"
  | .input => "input"
  | .rules => "rules"
  | .version => "version"
  | .help => "help"

/-- The letter after a single hyphen. -/
def letter? : Opt → Option Char
  | .logLevel | .policy => none
  | .pretty => some 'p'
  | .input => some 'i'
  | .rules => some 'r'
  | .version => some 'V'
  | .help => some 'h'

/-- Whether an option is followed by a value. -/
def takesValue : Opt → Bool
  | .logLevel | .policy | .input | .rules => true
  | .pretty | .version | .help => false

end Opt

/-- Why reading ends before all arguments are read. -/
inductive Stop
  | refused
  | version
  | help
  deriving DecidableEq

/-- Which records are shown: none at all, or those up to a level. -/
abbrev LogSetting := Option Log.Level

/-- What the options of one level have been given. -/
structure Given where
  logLevel : Option LogSetting
  policy : Option EmptyPolicy
  pretty : Bool
  input : Option String
  rules : Option String
  deriving DecidableEq

/-- No option has been given. -/
def Given.nothing : Given := ⟨none, none, false, none, none⟩

/-- The log setting with a given name. -/
def logSetting? (name : String) : Option LogSetting :=
  match name with
  | "none" => some none
  | "error" => some (some .error)
  | "warn" => some (some .warn)
  | "info" => some (some .info)
  | "debug" => some (some .debug)
  | "trace" => some (some .trace)
  | _ => none

/-- The policy with a given name. -/
def policy? (name : String) : Option EmptyPolicy :=
  match name with
  | "zero" => some .zero
  | "reject" => some .reject
  | _ => none

/-- A field that is set for the first time to an acceptable value. -/
def setOnce {α : Type} (old new : Option α) : Except Stop (Option α) :=
  match old, new with
  | none, some a => .ok (some a)
  | _, _ => .error .refused

/-- Takes note of an option.  No option may be repeated, and the name of a file is not empty. -/
def Given.put (g : Given) (o : Opt) (value : String) : Except Stop Given :=
  match o with
  | .logLevel => (setOnce g.logLevel (logSetting? value)).map ({ g with logLevel := · })
  | .policy => (setOnce g.policy (policy? value)).map ({ g with policy := · })
  | .pretty => if g.pretty then .error .refused else .ok { g with pretty := true }
  | .input => (setOnce g.input (some value)).map ({ g with input := · })
  | .rules =>
    (setOnce g.rules (if value.isEmpty then none else some value)).map ({ g with rules := · })
  | .version => .error .version
  | .help => .error .help

/-- What can stand on a level: its options, and the largest number of words if there is one. -/
structure Usage where
  options : List Opt
  mostWords : Option Nat
  deriving DecidableEq

/-- How far a level has been read: the options so far, the words so far with the last one first, an
    option that waits for its value, and whether only words can follow. -/
structure Progress where
  given : Given
  words : List String
  waiting : Option Opt
  onlyWords : Bool

/-- Nothing has been read. -/
def Progress.start : Progress := ⟨.nothing, [], none, false⟩

/-- Whether an argument can be the value of the option before it, or a word.  A single hyphen can,
    any other argument with a hyphen in front cannot. -/
def isPlain (arg : String) : Bool :=
  match arg.toList with
  | '-' :: _ :: _ => false
  | _ => true

namespace Progress

/-- Reads an option by its name, and its value if it is joined to the name by an equals sign. -/
def readNamed (options : List Opt) (p : Progress) (body : List Char) : Except Stop Progress :=
  let name := String.ofList (body.takeWhile fun c => c != '=')
  match options.find? fun o => o.name = name, body.dropWhile fun c => c != '=' with
  | none, _ => .error .refused
  | some o, [] =>
    if o.takesValue then .ok { p with waiting := some o }
    else (p.given.put o "").map ({ p with given := · })
  | some o, _ :: value =>
    if o.takesValue then (p.given.put o (String.ofList value)).map ({ p with given := · })
    else .error .refused

/-- Reads options by their letters.  The first one with a value takes the rest of the argument, if
    there is any, without an equals sign in front. -/
def readLetters (options : List Opt) (p : Progress) : List Char → Except Stop Progress
  | [] => .ok p
  | c :: rest =>
    match options.find? fun o => o.letter? = some c with
    | none => .error .refused
    | some o =>
      if o.takesValue then
        match rest with
        | [] => .ok { p with waiting := some o }
        | '=' :: value => (p.given.put o (String.ofList value)).map ({ p with given := · })
        | value => (p.given.put o (String.ofList value)).map ({ p with given := · })
      else do
        let given ← p.given.put o ""
        readLetters options { p with given } rest

/-- Reads one argument.  A word is refused where no further one can stand. -/
def step (u : Usage) (p : Progress) (arg : String) : Except Stop Progress :=
  match p.waiting with
  | some o =>
    if isPlain arg then
      (p.given.put o arg).map fun given => { p with given, waiting := none }
    else .error .refused
  | none =>
    if p.onlyWords || isPlain arg then
      if u.mostWords.any (· ≤ p.words.length) then .error .refused
      else .ok { p with words := arg :: p.words }
    else
      match arg.toList with
      | ['-', '-'] => .ok { p with onlyWords := true }
      | '-' :: '-' :: body => readNamed u.options p body
      | _ :: letters => readLetters u.options p letters
      | [] => .error .refused

end Progress

/-! ### Both levels -/

/-- The options of every level. -/
def sharedOptions : List Opt := [.logLevel, .policy, .pretty, .help]

/-- A command with its operands. -/
inductive Task
  | tokenize (operand : String)
  | parse (rule : String)
  | check (rules : List String) (input : Option String)
  | batch (rulesFile : String) (input : Option String)
  | overview
  | page (name : String)
  deriving DecidableEq

/-- The usage of the program.  Its first word is the name of a command. -/
def programUsage : Usage := ⟨.version :: sharedOptions, none⟩

/-- The usage of a command, if there is a command of that name. -/
def usage? (name : String) : Option Usage :=
  match name with
  | "tokenize" | "parse" | "doc" => some ⟨sharedOptions, some 1⟩
  | "check" => some ⟨.input :: sharedOptions, none⟩
  | "batch" => some ⟨.rules :: .input :: sharedOptions, some 0⟩
  | "docs" => some ⟨sharedOptions, some 0⟩
  | _ => none

/-- The command of a name with its words and options. -/
def task? (name : String) (words : List String) (given : Given) : Option Task :=
  match name, words with
  | "tokenize", [operand] => some (.tokenize operand)
  | "parse", [rule] => some (.parse rule)
  | "check", rule :: rest => some (.check (rule :: rest) given.input)
  | "batch", [] => given.rules.map fun file => .batch file given.input
  | "docs", [] => some .overview
  | "doc", [name] => some (.page name)
  | _, _ => none

/-- Everything that the arguments say. -/
structure Invocation where
  task : Task
  logLevel : LogSetting
  policy : EmptyPolicy
  pretty : Bool
  deriving DecidableEq

/-- The policy of an invocation.  A command's own option goes before the program's, and both before
    the environment, which has to name a policy wherever an option leaves room for it. -/
def choosePolicy (outer inner : Option EmptyPolicy) (envPolicy : Option String) :
    Except Stop EmptyPolicy :=
  match outer, inner, envPolicy with
  | some _, some policy, _ => .ok policy
  | _, _, none => .ok ((inner.or outer).getD .zero)
  | _, _, some name =>
    match policy? name with
    | some fallback => .ok ((inner.or outer).getD fallback)
    | none => .error .refused

/-- The answer to a call for help, on the program or on a single command. -/
def readHelp : List String → Stop
  | [] => .help
  | [name] => if name = "help" || (usage? name).isSome then .help else .refused
  | _ => .refused

/-- Reads the arguments of a command. -/
def readTask (envPolicy : Option String) (outer : Given) (name : String) (args : List String) :
    Except Stop Invocation :=
  match usage? name with
  | none => .error (if name = "help" then readHelp args else .refused)
  | some usage => do
    let p ← args.foldlM (Progress.step usage) .start
    match p.waiting, task? name p.words.reverse p.given with
    | none, some task =>
      let policy ← choosePolicy outer.policy p.given.policy envPolicy
      return ⟨task, (p.given.logLevel.or outer.logLevel).getD none, policy,
        p.given.pretty || outer.pretty⟩
    | _, _ => .error .refused

/-- Reads the arguments of the program up to the name of a command. -/
def readProgram (envPolicy : Option String) (p : Progress) : List String → Except Stop Invocation
  | [] => .error .refused
  | arg :: rest => do
    let p ← p.step programUsage arg
    match p.words with
    | name :: _ => readTask envPolicy p.given name rest
    | [] => if p.onlyWords then .error .refused else readProgram envPolicy p rest

/-- Reads all arguments.  The policy may also come from an environment variable. -/
def read (envPolicy : Option String) (args : List String) : Except Stop Invocation :=
  readProgram envPolicy .start args

end Arguments

end TextRules
