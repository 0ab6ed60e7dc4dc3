import TextRules.CommandLine.Arguments
import TextRules.CommandLine.Command
import TextRules.CommandLine.LogFilter
import TextRules.Text.Terminal

namespace TextRules

/-!
# The program

What the program answers to its arguments, its environment, its standard input and its files: an
exit code and two texts.  Nothing here reads or writes anything.
-/

/-- The variables of the environment that the program looks at. -/
structure Environment where
  policy : Option String
  logFilter : Option String

/-- What the program reads: the standard input, unless it is a terminal, and files. -/
structure Inputs where
  stdin : Option (Except InputError ByteArray)
  file : String → Except InputError ByteArray

/-- What the program leaves behind. -/
structure Outcome where
  exitCode : Nat
  stdout : String
  stderr : String
  deriving DecidableEq

namespace Program

/-- The name of the program and its version. -/
def version : String := "rulecheck 0.1.0"

/-! ### Inputs -/

/-- Bytes as text. -/
def decode (bytes : ByteArray) : Except InputError String :=
  match String.fromUTF8? bytes with
  | some text => .ok text
  | none => .error .notUnicode

/-- Whether a character ends a line. -/
def isLineEnd (c : Char) : Bool := c == '\r' || c == '\n'

/-- A text without the line ends behind it. -/
def trimLineEnds (text : String) : String :=
  String.ofList (text.toList.reverse.dropWhile isLineEnd).reverse

/-- The text of a file. -/
def readFile (inputs : Inputs) (path : String) : Except CommandError String :=
  ((inputs.file path).bind decode).mapError .unreadable

/-- The given input, or else the standard input without the line ends behind it. -/
def readInput (inputs : Inputs) (given : Option String) : Except CommandError (Option String) :=
  match given, inputs.stdin with
  | some text, _ => .ok (some text)
  | none, none => .ok none
  | none, some bytes =>
    ((bytes.bind decode).mapError .unreadable).map fun text => some (trimLineEnds text)

/-- Whether a task asks for the standard input. -/
def needsStdin : Arguments.Task → Bool
  | .check _ none | .batch _ none => true
  | _ => false

/-! ### Answers -/

/-- A value on lines of its own. -/
def shown (pretty : Bool) (j : Json) : String :=
  (if pretty then j.indented else j.compact) ++ "\n"

/-- Verdicts in JSON. -/
def verdicts (bs : List Bool) : Json := .arr (bs.map Json.bool)

/-- What a task prints. -/
def perform (inputs : Inputs) (policy : EmptyPolicy) (pretty : Bool) :
    Arguments.Task → Logged (Except CommandError String)
  | .tokenize operand =>
    pure ((Command.tokenize operand).map fun tokens => shown pretty (Stored.writeOperand tokens))
  | .parse rule => do
    return (← Command.parse rule).map fun rule => shown pretty (Stored.writeRule rule)
  | .check rules input => do
    match readInput inputs input with
    | .error cause => return .error cause
    | .ok input =>
      return (← Command.check policy rules input).map fun results =>
        shown pretty (verdicts results)
  | .batch rulesFile input => do
    match readFile inputs rulesFile with
    | .error cause => return .error cause
    | .ok rules =>
      match readInput inputs input with
      | .error cause => return .error cause
      | .ok input =>
        return (← Command.batch policy rules input).map fun rows =>
          shown pretty (.arr (rows.map verdicts))
  | .overview => return .ok Manual.overview.text
  | .page name => return Command.page name

/-! ### Log lines -/

/-- The name of a level, at least five characters wide. -/
def paddedName (level : Log.Level) : String :=
  String.ofList (level.name.toList ++ List.replicate (5 - level.name.length) ' ')

/-- A text whose lines after the first are indented. -/
def hanging (text : String) : String :=
  String.ofList (text.toList.flatMap fun c =>
    if c = '\n' then '\n' :: List.replicate 4 ' ' else [c])

/-- A record as it is printed, with or without its source, and without terminal commands. -/
def logLine (withSource : Bool) (record : Log.Record) : String :=
  let source := if withSource then " " ++ record.source.name else ""
  Terminal.plainText
    ("[" ++ paddedName record.level ++ source ++ "] " ++ hanging record.text ++ "\n")

/-- The name of a level in a filter. -/
def filterName : Log.Level → String
  | .error => "error"
  | .warn => "warn"
  | .info => "info"
  | .debug => "debug"
  | .trace => "trace"

/-- What is printed of the records: nothing without a level, and otherwise what the filter of the
    environment shows, or what the level shows if there is none.  The two lowest levels also show
    the source of a record. -/
def logText (setting : Arguments.LogSetting) (filter : Option String)
    (records : List Log.Record) : String :=
  match setting with
  | none => ""
  | some level =>
    let (filter, faults) := LogFilter.read (filter.getD (filterName level))
    let warnings := faults.map fun fault => fault.warning ++ "\n"
    let withSource := level.rank ≥ Log.Level.debug.rank
    String.join (warnings ++ (filter.shown records).map (logLine withSource))

/-! ### The whole program -/

/-- The outcome of an invocation. -/
def execute (environment : Environment) (inputs : Inputs) (i : Arguments.Invocation) : Outcome :=
  let answer := perform inputs i.policy i.pretty i.task
  match answer.value with
  | .ok text => ⟨0, text, logText i.logLevel environment.logFilter answer.records⟩
  | .error cause =>
    let records := answer.records ++ [⟨.error, .program, cause.message⟩]
    ⟨1, "", logText i.logLevel environment.logFilter records ++ cause.message ++ "\n"⟩

/-- The outcome when the arguments name no task. -/
def stop : Arguments.Stop → Outcome
  | .refused => ⟨2, "", "The arguments were not understood.\n" ++ Manual.overview.text⟩
  | .version => ⟨0, version ++ "\n", ""⟩
  | .help => ⟨0, Manual.overview.text, ""⟩

/-- The outcome of a run of the program. -/
def run (environment : Environment) (inputs : Inputs) (args : List String) : Outcome :=
  match Arguments.read environment.policy args with
  | .error reason => stop reason
  | .ok invocation => execute environment inputs invocation

end Program

end TextRules
