namespace TextRules

/-!
# Terminal commands

A terminal takes control characters, and what follows an escape character, for commands.  The plain
text of a message is what remains without them.
-/

namespace Terminal

/-- How far a command with parameters has been read.  In an invalid one, nothing counts any more
    but its end. -/
inductive Part
  | start
  | parameters
  | intermediates
  | invalid
  deriving DecidableEq

/-- Where a character stands: in plain text, right behind an escape character, in a longer escape,
    in a control sequence, at the head of a device control string, in the text of a string, or in a
    system command. -/
inductive State
  | plain
  | escape
  | longEscape
  | control (part : Part)
  | device (part : Part)
  | string
  | system
  deriving DecidableEq

/-- Whether a control character only moves on in the text. -/
def isSpacing (c : Char) : Bool := c == '\t' || c == '\n' || c == '\x0c' || c == '\r'

/-- Whether a character is part of a text. -/
def isText (c : Char) : Bool := isSpacing c || (' ' ≤ c && c != '\x7f')

/-- Whether a character breaks off any command. -/
def isCancel (c : Char) : Bool := c == '\x18' || c == '\x1a'

/-- Whether the byte that terminates a string is among the bytes of a character. -/
def endsString (c : Char) : Bool := (String.utf8EncodeChar c).contains 0x9C

/-- The part of a command that a character leads to, unless it ends the command. -/
def Part.next? (part : Part) (c : Char) : Option Part :=
  if '@' ≤ c then none
  else
    match part with
    | .start => some (if c < '0' then .intermediates else .parameters)
    | .parameters =>
      some (if c < '0' then .intermediates else if c < '<' then .parameters else .invalid)
    | .intermediates => some (if c < '0' then .intermediates else .invalid)
    | .invalid => some .invalid

/-- The state behind a printable ASCII character in a command. -/
def State.next (state : State) (c : Char) : State :=
  match state with
  | .escape =>
    if c < '0' then .longEscape
    else if c = '[' then .control .start
    else if c = ']' then .system
    else if c = 'P' then .device .start
    else if c = 'X' ∨ c = '^' ∨ c = '_' then .string
    else .plain
  | .longEscape => if c < '0' then .longEscape else .plain
  | .control part => (part.next? c).elim .plain .control
  | .device part => (part.next? c).elim .string .device
  | state => state

/-- The state behind a character, and whether the character is part of the text. -/
def State.step (state : State) (c : Char) : State × Bool :=
  if isCancel c then (.plain, false)
  else if c = '\x1b' then (.escape, false)
  else
    match state with
    | .plain => (.plain, isText c)
    | .string | .device .invalid => (if endsString c then .plain else state, false)
    | .system => (if c = '\x07' then .plain else state, false)
    | .device _ => (if ' ' ≤ c ∧ c ≤ '~' then state.next c else state, false)
    | _ =>
      if isSpacing c then (.plain, true)
      else (if ' ' ≤ c ∧ c ≤ '~' then state.next c else state, false)

/-- The plain text of a message. -/
def plainText (message : String) : String :=
  let (_, shown) := message.toList.foldl
    (fun (state, shown) c =>
      let (state, isShown) := State.step state c
      (state, if isShown then c :: shown else shown))
    (State.plain, [])
  String.ofList shown.reverse

example : plainText "a\x1b[1;31mb\x1b[0m\x07c" = "abc" := by cbv

example : plainText "\x1b]0;title\x07text" = "text" := by cbv

end Terminal

end TextRules
