import TextRules.Operand.Reduction
import TextRules.Text.Blank
import TextRules.Text.LowerCase

namespace TextRules

/-!
# Reading operands

The text of an operand is lower-cased, freed of blanks and quotes, and cut into words at commas
and brackets.  Each word is a token, but for `count`, which makes the word after it a text to
count.  The brackets themselves carry no meaning here: the order of the words gives the shape.
-/

/-- Why the words of an operand are not tokens. -/
inductive WordError
  | noWords
  | unknownWord (word : String)
  | nothingToCount
  | numberTooLarge (word : String)
  deriving DecidableEq

/-- The wording of a word error. -/
def WordError.message : WordError → String
  | .noWords => "operand is empty"
  | .unknownWord word => s!"unknown function or keyword '{word}'"
  | .nothingToCount => "count is missing the text to count"
  | .numberTooLarge word => s!"number {word} is out of range"

/-- Whether a character is a quote, which may be set around texts but means nothing. -/
def isQuote (c : Char) : Bool := c == '"' || c == '\''

/-- Whether a character ends a word. -/
def isDelimiter (c : Char) : Bool := c == ',' || c == '(' || c == ')'

/-- A text in lower case without blanks and quotes. -/
def normalize (text : List Char) : List Char :=
  (lowerCase text).filter fun c => !isBlank c && !isQuote c

/-- The first word of a text and what follows it. -/
def nextWord? (text : List Char) : Option (List Char × List Char) :=
  match text.dropWhile isDelimiter with
  | [] => none
  | c :: rest =>
    some (c :: rest.takeWhile fun d => !isDelimiter d, rest.dropWhile fun d => !isDelimiter d)

theorem length_lt_of_nextWord? {text word rest : List Char}
    (h : nextWord? text = some (word, rest)) : rest.length < text.length := by
  have skipped := (List.dropWhile_suffix (l := text) isDelimiter).length_le
  unfold nextWord? at h
  split at h
  · simp at h
  · next c tail hc =>
    simp only [Option.some.injEq, Prod.mk.injEq] at h
    have followed := (List.dropWhile_suffix (l := tail) fun d => !isDelimiter d).length_le
    rw [hc, List.length_cons] at skipped
    rw [h.2] at followed
    omega

/-- The token that a word stands for when it is not a text to count. -/
def readWord (word : List Char) : Except WordError Token :=
  match Token.ofKeyword? (String.ofList word) with
  | some token => .ok token
  | none =>
    if isDecimal word then
      match Token.number? word with
      | some value => .ok (.leaf (.number value))
      | none => .error (.numberTooLarge (String.ofList word))
    else .error (.unknownWord (String.ofList word))

/-- The tokens of the words of a text.  While `counting`, the next word is the text to count. -/
def readWords (counting : Bool) (text : List Char) : Except WordError (List Token) :=
  match _h : nextWord? text with
  | none => if counting then .error .nothingToCount else .ok []
  | some (word, rest) =>
    if counting then
      (readWords false rest).map fun tokens => .leaf (.count (String.ofList word)) :: tokens
    else if word = countKeyword.toList then readWords true rest
    else
      match readWord word with
      | .error e => .error e
      | .ok token => (readWords false rest).map fun tokens => token :: tokens
termination_by text.length
decreasing_by all_goals exact length_lt_of_nextWord? (by assumption)

/-- The tokens that the text of an operand stands for. -/
def Operand.read (text : String) : Except WordError Operand :=
  match readWords false (normalize text.toList) with
  | .ok [] => .error .noWords
  | answer => answer

/-- Why the text of an operand is refused. -/
inductive OperandError
  | words (cause : WordError)
  | shape (cause : ShapeError)
  deriving DecidableEq

/-- The wording of an operand error. -/
def OperandError.message : OperandError → String
  | .words cause => cause.message
  | .shape cause => cause.message

/-- The tokens of a text that is one complete expression. -/
def Operand.parse (text : String) : Except OperandError Operand :=
  match Operand.read text with
  | .error cause => .error (.words cause)
  | .ok tokens =>
    match Operand.check tokens with
    | .error cause => .error (.shape cause)
    | .ok () => .ok tokens

end TextRules
