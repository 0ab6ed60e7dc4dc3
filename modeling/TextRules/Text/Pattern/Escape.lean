import TextRules.Text.Hexadecimal
import TextRules.Text.Pattern.Cursor
import TextRules.Text.Pattern.Tree

namespace TextRules

/-!
# Escapes in patterns

What a backslash and the characters behind it stand for.
-/

namespace Pattern

/-! ### Characters by number -/

/-- The character with a hexadecimal number. -/
def scalar? (digits : List Char) : Option Char :=
  (hexValue? digits).bind fun n => if n.isValidChar then some (Char.ofNat n) else none

/-- Reads a given number of hexadecimal digits, after those that have been read, the last one
    first. -/
def readDigits (verbose : Bool) (read : List Char) : Nat → Reader (List Char)
  | 0, c => .ok (read.reverse, c)
  | n + 1, c =>
    match c.rest with
    | [] => .error (.at .unfinishedEscape c.position c.position)
    | x :: _ =>
      if (hexDigit? x).isNone then .error ⟨.badHexDigit, [c.here]⟩
      else readDigits verbose (x :: read) n (c.bumpSkip verbose)

/-- Reads hexadecimal digits up to a closing brace, behind those that have been read, the last one
    first. -/
def readBracedDigits (verbose : Bool) (brace : Position) (read : List Char) (c : Cursor) :
    Except Flaw (List Char × Cursor) :=
  match _ : c.rest with
  | [] => .error (.at .unfinishedEscape brace c.position)
  | x :: _ =>
    if x = '\x7d' then .ok (read.reverse, c)
    else if (hexDigit? x).isNone then .error ⟨.badHexDigit, [c.here]⟩
    else readBracedDigits verbose brace (x :: read) (c.bumpSkip verbose)
termination_by c.rest.length
decreasing_by exact c.length_bumpSkip_lt verbose ‹_›

/-- Reads a character by its number, behind a letter that tells the number of digits, unless they
    stand between braces. -/
def readNumbered (verbose : Bool) (start : Position) (letter : Char) : Reader Atom := fun c => do
  let c := c.bumpSkip verbose
  if c.rest.head? = some '\x7b' then
    let first := c.bump.position
    let (digits, d) ← readBracedDigits verbose c.position [] (c.bumpSkip verbose)
    let behind := d.bumpSkip verbose
    if digits.isEmpty then .error (.at .noHexDigits c.position behind.position)
    else
      match scalar? digits with
      | some x => return (.literal ⟨behind.since start, x, false⟩, behind)
      | none => .error (.at .notACharacter first d.position)
  else
    let width := if letter = 'x' then 2 else if letter = 'u' then 4 else 8
    let (digits, behind) ← readDigits verbose [] width c
    match scalar? digits with
    | some x => return (.literal ⟨behind.since start, x, letter == 'x'⟩, behind)
    | none => .error (.at .notACharacter c.position behind.position)

/-! ### Properties -/

/-- Reads up to a closing brace, after what has been read, the last character first. -/
def readBraced (verbose : Bool) (read : List Char) (c : Cursor) :
    Except Flaw (List Char × Cursor) :=
  match _ : c.rest with
  | [] => .error (.at .unfinishedEscape c.position c.position)
  | x :: _ =>
    if x = '\x7d' then .ok (read.reverse, c)
    else readBraced verbose (x :: read) (c.bumpSkip verbose)
termination_by c.rest.length
decreasing_by exact c.length_bumpSkip_lt verbose ‹_›

/-- What stands before and behind the first occurrence of a text in another. -/
def cutAt? (mark : List Char) (before : List Char) : List Char → Option (List Char × List Char)
  | [] => none
  | x :: rest =>
    if mark.isPrefixOf (x :: rest) then some (before.reverse, (x :: rest).drop mark.length)
    else cutAt? mark (x :: before) rest

/-- The question that a text between braces asks, and whether all others are meant. -/
def propertyQuery (text : List Char) : PropertyQuery × Bool :=
  match cutAt? ['!', '='] [] text with
  | some (name, value) => (.valued name value, true)
  | none =>
    match (cutAt? [':'] [] text).or (cutAt? ['='] [] text) with
    | some (name, value) => (.valued name value, false)
    | none => (.named text, false)

/-- Reads a property at its letter. -/
def readProperty (verbose : Bool) (start : Position) (letter : Char) : Reader Atom := fun c => do
  let c := c.bumpSkip verbose
  match c.rest with
  | [] => .error (.at .unfinishedEscape c.position c.position)
  | '\x7b' :: _ =>
    let (text, d) ← readBraced verbose [] (c.bumpSkip verbose)
    let (query, negated) := propertyQuery text
    return (.property (d.bump.since start) query (negated != (letter == 'P')), d.bump)
  | x :: _ =>
    if x = '\\' then .error ⟨.badProperty, [c.here]⟩
    else
      let behind := c.bumpSkip verbose
      return (.property (behind.since start) (.named [x]) (letter == 'P'), behind)

/-! ### Word boundaries -/

/-- The kinds of word boundary that have names. -/
def wordEdge? (name : String) : Option WordEdge :=
  match name with
  | "start" => some .start
  | "end" => some .stop
  | "start-half" => some .noneBefore
  | "end-half" => some .noneAfter
  | _ => none

/-- Whether a character can stand in the name of a word boundary. -/
def isBoundaryChar (c : Char) : Bool := c.isAlpha || c == '-'

/-- Reads the name of a word boundary, after what has been read, the last character first. -/
def readBoundaryName (verbose : Bool) (read : List Char) (c : Cursor) : List Char × Cursor :=
  match _ : c.rest with
  | [] => (read.reverse, c)
  | x :: _ =>
    if isBoundaryChar x then readBoundaryName verbose (x :: read) (c.bumpSkip verbose)
    else (read.reverse, c)
termination_by c.rest.length
decreasing_by exact c.length_bumpSkip_lt verbose ‹_›

/-- Reads what follows the letter of a word boundary, which may be a name between braces. -/
def readBoundary (verbose : Bool) (start : Position) : Reader Atom := fun c =>
  let plain := (Atom.anchor (c.since start) (.word .boundary), c)
  if c.rest.head? = some '\x7b' then
    let inner := c.bumpSkip verbose
    match inner.rest with
    | [] => .error (.at .unfinishedBoundary start inner.position)
    | x :: _ =>
      if !isBoundaryChar x then .ok plain
      else
        let (name, behind) := readBoundaryName verbose [] inner
        if behind.rest.head? ≠ some '\x7d' then
          .error (.at .unclosedBoundary c.position behind.position)
        else
          match wordEdge? (String.ofList name) with
          | some e => .ok (.anchor (behind.bump.since start) (.word e), behind.bump)
          | none => .error (.at .unknownBoundary inner.position behind.position)
  else .ok plain

/-! ### All escapes -/

/-- The character that a letter behind a backslash stands for. -/
def control? (c : Char) : Option Char :=
  match c with
  | 'a' => some '\x07'
  | 'f' => some '\x0c'
  | 't' => some '\t'
  | 'n' => some '\n'
  | 'r' => some '\r'
  | 'v' => some '\x0b'
  | _ => none

/-- The condition that a character behind a backslash stands for. -/
def anchor? (c : Char) : Option Anchor :=
  match c with
  | 'A' => some .textStart
  | 'z' => some .textEnd
  | 'B' => some (.word .noBoundary)
  | '<' => some (.word .start)
  | '>' => some (.word .stop)
  | _ => none

/-- The kind of character that a letter behind a backslash stands for, and whether the others are
    meant. -/
def charKind? (c : Char) : Option (CharKind × Bool) :=
  match c with
  | 'd' => some (.digit, false)
  | 'D' => some (.digit, true)
  | 's' => some (.space, false)
  | 'S' => some (.space, true)
  | 'w' => some (.word, false)
  | 'W' => some (.word, true)
  | _ => none

/-- Reads an escape at its backslash.  ASCII characters other than letters and digits stand for
    themselves. -/
def readEscape (verbose : Bool) : Reader Atom := fun c =>
  let start := c.position
  let c := c.bump
  let behind := c.bump
  let place := behind.since start
  match c.rest with
  | [] => .error (.at .unfinishedEscape start c.position)
  | x :: _ =>
    if x = 'x' ∨ x = 'u' ∨ x = 'U' then readNumbered verbose start x c
    else if x = 'p' ∨ x = 'P' then readProperty verbose start x c
    else if x = 'b' then readBoundary verbose start behind
    else if x.isDigit then .error ⟨.backreference, [place]⟩
    else
      match charKind? x, control? x, anchor? x with
      | some (kind, negated), _, _ => .ok (.kind place kind negated, behind)
      | none, some control, _ => .ok (.literal ⟨place, control, false⟩, behind)
      | none, none, some anchor => .ok (.anchor place anchor, behind)
      | none, none, none =>
        if x.isAlpha || 0x7F < x.toNat then .error ⟨.unknownEscape, [place]⟩
        else .ok (.literal ⟨place, x, false⟩, behind)

end Pattern

end TextRules
