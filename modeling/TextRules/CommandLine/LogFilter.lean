import TextRules.Log
import TextRules.Text.Pattern.Machine
import TextRules.Text.Pattern.Reading
import TextRules.Text.Split

namespace TextRules

/-!
# Log filters

A filter tells which log records are shown.  It is written as directives between commas: a level
for all records, or a source, with or without a level after an equals sign.  The directive with the
longest source that fits a record decides.  Behind a slash, there may be a pattern for the texts of
the records.
-/

/-- How much of the records is shown: those up to a level, or none. -/
abbrev Threshold := Option Log.Level

/-- A threshold for the sources whose names start with a text, or for all. -/
structure Directive where
  source : Option String
  threshold : Threshold
  deriving DecidableEq

/-- Which log records are shown. -/
structure LogFilter where
  directives : List Directive
  pattern : Option Pattern

namespace LogFilter

/-- What cannot be read in a filter. -/
inductive Fault
  | badDirective (part : String)
  | badPattern (cause : PatternError)
  | tooManySlashes (text : String)
  deriving DecidableEq

/-- The wording of a fault. -/
def Fault.message : Fault → String
  | .badDirective part => s!"invalid logging spec '{part}'"
  | .badPattern cause => s!"invalid regex filter - {cause.message}"
  | .tooManySlashes text => s!"invalid logging spec '{text}' (too many '/'s)"

/-- What is told about a fault, which is then passed over. -/
def Fault.warning (fault : Fault) : String := s!"warning: {fault.message}, ignoring it"

/-! ### Reading -/

/-- A text without the blanks at both ends. -/
def trim (text : List Char) : List Char :=
  ((text.dropWhile isBlank).reverse.dropWhile isBlank).reverse

/-- The threshold with a given name, in letters of either case. -/
def threshold? (name : List Char) : Option Threshold :=
  match String.ofList (name.map Char.toLower) with
  | "off" => some none
  | "error" => some (some .error)
  | "warn" => some (some .warn)
  | "info" => some (some .info)
  | "debug" => some (some .debug)
  | "trace" => some (some .trace)
  | _ => none

/-- A directive, or the part of it that cannot be read. -/
def readDirective (text : List Char) : Except (List Char) Directive :=
  match splitAt '=' text with
  | [name] =>
    match threshold? name with
    | some threshold => .ok ⟨none, threshold⟩
    | none => .ok ⟨some (String.ofList name), some .trace⟩
  | [name, level] =>
    match trim level, threshold? (trim level) with
    | [], _ => .ok ⟨some (String.ofList name), some .trace⟩
    | _, some threshold => .ok ⟨some (String.ofList name), threshold⟩
    | level, none => .error level
  | _ => .error text

/-- Puts a directive in the place of one for the same source, or behind all others. -/
def put (directives : List Directive) (d : Directive) : List Directive :=
  if directives.any fun e => e.source = d.source then
    directives.map fun e => if e.source = d.source then d else e
  else directives ++ [d]

/-- The directives between commas, and what cannot be read among them. -/
def readDirectives (text : List Char) : List Directive × List Fault :=
  let parts := ((splitAt ',' text).map trim).filter fun part => !part.isEmpty
  parts.foldl
    (fun (directives, faults) part =>
      match readDirective part with
      | .ok d => (put directives d, faults)
      | .error fault => (directives, faults ++ [.badDirective (String.ofList fault)]))
    ([], [])

/-- The filter that a text writes, and what cannot be read in it. -/
def read (text : String) : LogFilter × List Fault :=
  match splitAt '/' text.toList with
  | [directives] =>
    let (directives, faults) := readDirectives directives
    (⟨directives, none⟩, faults)
  | [directives, pattern] =>
    let (directives, faults) := readDirectives directives
    match Pattern.read (String.ofList pattern) with
    | .ok pattern => (⟨directives, some pattern⟩, faults)
    | .error cause => (⟨directives, none⟩, faults ++ [.badPattern cause])
  | _ => (⟨[], none⟩, [.tooManySlashes text])

/-! ### Showing records -/

/-- The length of a directive's source. -/
def weight (d : Directive) : Nat := (d.source.map String.utf8ByteSize).getD 0

/-- Whether a directive speaks of a source. -/
def speaksOf (d : Directive) (name : String) : Bool :=
  match d.source with
  | none => true
  | some start => start.toList.isPrefixOf name.toList

/-- Whether a record of some level is within a threshold. -/
def within (threshold : Threshold) (level : Log.Level) : Bool :=
  threshold.any fun highest => level.rank ≤ highest.rank

/-- Whether the directives of a filter show a record.  Without any, only errors are shown; among
    several that are equally long, the last one decides. -/
def admits (filter : LogFilter) (record : Log.Record) : Bool :=
  let directives :=
    if filter.directives.isEmpty then [⟨none, some .error⟩] else filter.directives
  let sorted := directives.mergeSort fun a b => weight a ≤ weight b
  let decisive := sorted.reverse.find? fun d => speaksOf d record.source.name
  decisive.any fun d => within d.threshold record.level

/-- The records that a filter shows. -/
def shown (filter : LogFilter) (records : List Log.Record) : List Log.Record :=
  let machine := filter.pattern.map Pattern.machine
  records.filter fun record =>
    filter.admits record && machine.all fun m => m.finds record.text

end LogFilter

end TextRules
