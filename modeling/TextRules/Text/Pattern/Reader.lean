import TextRules.Text.Alphanumeric
import TextRules.Text.Pattern.Bracket

namespace TextRules

/-!
# Reading patterns

A pattern is read part by part from left to right.  Each opened group remembers what stands in
front of it, so that nesting needs no recursion.
-/

namespace Pattern

/-! ### Flags -/

/-- Reads flags up to a colon or a closing parenthesis, after those before, the last one first. -/
def readFlags (before : List FlagItem) (p : Position) :
    List Char → Except Flaw (List FlagItem × Cursor)
  | [] => .error (.at .unfinishedFlags p p)
  | c :: rest =>
    if c = ':' ∨ c = ')' then
      match before with
      | ⟨none, last⟩ :: _ => .error ⟨.danglingNegation, [last]⟩
      | _ => .ok (before.reverse, ⟨p, c :: rest⟩)
    else
      let flag := Flag.ofLetter? c
      let place := Stretch.ofChar p c
      if flag.isNone && c != '-' then .error ⟨.unknownFlag, [place]⟩
      else
        match before.find? fun item => item.flag = flag with
        | some item =>
          .error ⟨if flag.isSome then .repeatedFlag else .repeatedNegation, [item.place, place]⟩
        | none => readFlags (⟨flag, place⟩ :: before) (p.after c) rest

/-! ### Counts -/

/-- The cursor behind blanks. -/
def skipBlanks (p : Position) : List Char → Cursor
  | [] => ⟨p, []⟩
  | c :: rest => if isBlank c then skipBlanks (p.after c) rest else ⟨p, c :: rest⟩

/-- Reads digits, after those that have been read, the last one first. -/
def readCountDigits (verbose : Bool) (read : List Char) (c : Cursor) : List Char × Cursor :=
  match _ : c.rest with
  | [] => (read.reverse, c)
  | x :: _ =>
    if x.isDigit then readCountDigits verbose (x :: read) (c.bumpSkip verbose)
    else (read.reverse, c)
termination_by c.rest.length
decreasing_by exact c.length_bumpSkip_lt verbose ‹_›

/-- The cursor behind blanks, each of which may be followed by comments. -/
def skipSpaced (verbose : Bool) (c : Cursor) : Cursor :=
  match _ : c.rest with
  | [] => c
  | x :: _ => if isBlank x then skipSpaced verbose (c.bumpSkip verbose) else c
termination_by c.rest.length
decreasing_by exact c.length_bumpSkip_lt verbose ‹_›

/-- Reads a count with blanks around it, and in any case gives the cursor behind it. -/
def readBound (verbose : Bool) (c : Cursor) : Except Flaw Nat × Cursor :=
  let c := skipBlanks c.position c.rest
  let (digits, d) := readCountDigits verbose [] c
  let behind := skipSpaced verbose d
  if digits.isEmpty then (.error (.at .noCount c.position behind.position), behind)
  else if decimalValue digits < UInt32.size then (.ok (decimalValue digits), behind)
  else (.error ⟨.badCount, [d.since c.position]⟩, behind)

/-- Reads how often something is repeated, at an opening brace. -/
def readCounts (verbose : Bool) : Reader (Nat × Option Nat) := fun c => do
  let unclosed (d : Cursor) : Flaw := ⟨.unclosedCount, [d.since c.position]⟩
  let inner := c.bumpSkip verbose
  if inner.rest.isEmpty then .error (unclosed inner)
  else
    let (least, d) := readBound verbose inner
    match d.rest with
    | [] => .error (unclosed d)
    | ',' :: _ =>
      let d := d.bumpSkip verbose
      match d.rest with
      | [] => .error (unclosed d)
      | '\x7d' :: _ => return ((← least, none), d)
      | _ =>
        let least ← least
        let (most, d) := readBound verbose d
        let most ← most
        if d.rest.head? = some '\x7d' then return ((least, some most), d)
        else .error (unclosed d)
    | x :: _ =>
      let least ← least
      if x = '\x7d' then return ((least, some least), d) else .error (unclosed d)

/-! ### What has been read -/

/-- The alternatives of a group: those that are complete, and the parts of the present one, all with
    the last one first, and where the first and the present alternative start. -/
structure Branches where
  first : Position
  complete : List Tree
  current : Position
  parts : List Tree

namespace Branches

/-- Nothing has been read. -/
def start (p : Position) : Branches := ⟨p, [], p, []⟩

/-- Takes in one more part. -/
def add (b : Branches) (part : Tree) : Branches := { b with parts := part :: b.parts }

/-- The present alternative, if it stops at some place. -/
def sequence (b : Branches) (stop : Position) : Tree :=
  match b.parts with
  | [] => .empty ⟨b.current, stop⟩
  | [part] => part
  | parts => .sequence ⟨b.current, stop⟩ parts.reverse

/-- Ends the present alternative in front of a bar. -/
def next (b : Branches) (bar behind : Position) : Branches :=
  ⟨b.first, b.sequence bar :: b.complete, behind, []⟩

/-- All alternatives, if the present one stops at some place. -/
def tree (b : Branches) (stop : Position) : Tree :=
  match b.complete with
  | [] => b.sequence stop
  | complete => .choice ⟨b.first, stop⟩ (b.sequence stop :: complete).reverse

end Branches

/-- A group whose closing parenthesis is still to come: where it has been opened, what it is for,
    and the alternatives in front of it and whether blanks were passed over there. -/
structure OpenGroup where
  opening : Stretch
  kind : GroupKind
  verbose : Bool
  branches : Branches

/-- How far a pattern has been read: whether blanks are passed over, the alternatives of the
    innermost open group, the open groups with the innermost one first, the names of groups, and
    the number of groups that mark a part. -/
structure Progress where
  verbose : Bool
  branches : Branches
  groups : List OpenGroup
  names : List (List Char × Stretch)
  captures : Nat

namespace Progress

/-- Nothing has been read. -/
def start : Progress := ⟨false, .start .start, [], [], 0⟩

/-- Takes in one more part. -/
def add (p : Progress) (part : Tree) : Progress := { p with branches := p.branches.add part }

/-- Whether blanks are passed over once some flags are set. -/
def verboseWith (p : Progress) (items : List FlagItem) : Bool :=
  (setFlags (if p.verbose then [.verbose] else []) items).contains .verbose

/-! ### Groups -/

/-- Opens a group that has been read up to a place. -/
def enter (p : Progress) (opening : Stretch) (kind : GroupKind) (verbose : Bool)
    (inner : Position) : Progress :=
  let group : OpenGroup := ⟨opening, kind, p.verbose, p.branches⟩
  { p with verbose, branches := .start inner, groups := group :: p.groups }

/-- Opens a group that marks its part. -/
def enterCapture (p : Progress) (opening : Stretch) (inner : Position) : Progress :=
  let index := p.captures + 1
  { p with captures := index }.enter opening (.capture index) p.verbose inner

/-- Closes the innermost group at its closing parenthesis. -/
def closeGroup (p : Progress) (c : Cursor) : Except Flaw Progress :=
  match p.groups with
  | [] => .error ⟨.unopenedGroup, [c.here]⟩
  | g :: groups =>
    let place : Stretch := ⟨g.opening.start, c.bump.position⟩
    let group := Tree.group place g.kind (p.branches.tree c.position)
    .ok { p with verbose := g.verbose, branches := g.branches.add group, groups }

/-- Whether a character can stand in the name of a group, at the start or further on. -/
def isNameChar (first : Bool) (c : Char) : Bool :=
  if first then c == '_' || isAlphabetic c
  else c == '_' || c == '.' || c == '[' || c == ']' || isAlphabetic c || isNumeric c

/-- Reads the name of a group up to an angle bracket, after what has been read, the last character
    first. -/
def readName (read : List Char) (p : Position) : List Char → Except Flaw (List Char × Cursor)
  | [] => .error (.at .unclosedName p p)
  | c :: rest =>
    if c = '>' then .ok (read.reverse, ⟨p, c :: rest⟩)
    else if isNameChar read.isEmpty c then readName (c :: read) (p.after c) rest
    else .error ⟨.badNameChar, [.ofChar p c]⟩

/-- Reads a name and opens the group that has it. -/
def enterNamed (p : Progress) (opening : Stretch) (c : Cursor) :
    Except Flaw (Progress × Cursor) := do
  let (name, d) ← readName [] c.position c.rest
  let place := d.since c.position
  if name.isEmpty then .error (.at .emptyName c.position c.position)
  else
    match p.names.find? fun known => known.1 = name with
    | some (_, earlier) => .error ⟨.repeatedName, [earlier, place]⟩
    | none =>
      let p := { p with names := (name, place) :: p.names }
      return (p.enterCapture opening d.bump.position, d.bump)

/-- Reads flags, which hold for the group that they open, or up to the end of the present one. -/
def enterFlagged (p : Progress) (opening : Stretch) (question : Position) (c : Cursor) :
    Except Flaw (Progress × Cursor) := do
  if c.rest.isEmpty then .error ⟨.unclosedGroup, [opening]⟩
  else
    let (items, d) ← readFlags [] c.position c.rest
    let behind := d.bump
    if d.rest.head? = some ':' then
      return (p.enter opening (.flags items) (p.verboseWith items) behind.position, behind)
    else if items.isEmpty then .error (.at .nothingToRepeat question question)
    else
      let part := Tree.flags ⟨opening.start, behind.position⟩ items
      return ({ p.add part with verbose := p.verboseWith items }, behind)

/-- Opens a group at its parenthesis. -/
def openGroup (p : Progress) (c : Cursor) : Except Flaw (Progress × Cursor) :=
  let opening := c.here
  let c := c.bumpSkip p.verbose
  match c.rest with
  | '?' :: '=' :: _ | '?' :: '!' :: _ =>
    .error (.at .lookAround opening.start (c.bumps 2).position)
  | '?' :: '<' :: '=' :: _ | '?' :: '<' :: '!' :: _ =>
    .error (.at .lookAround opening.start (c.bumps 3).position)
  | '?' :: 'P' :: '<' :: _ => p.enterNamed opening (c.bumps 3)
  | '?' :: '<' :: _ => p.enterNamed opening (c.bumps 2)
  | '?' :: _ => p.enterFlagged opening c.position c.bump
  | _ => .ok (p.enterCapture opening c.position, c)

/-! ### Repetition -/

/-- Reads the bounds that an operator sets, with all that is passed over behind them. -/
def readBounds (verbose : Bool) : Reader (Nat × Option Nat) := fun c =>
  match c.rest.head? with
  | some '?' => .ok ((0, some 1), c.bump)
  | some '*' => .ok ((0, none), c.bump)
  | some '+' => .ok ((1, none), c.bump)
  | _ => do
    let (bounds, d) ← readCounts verbose c
    return (bounds, d.bumpSkip verbose)

/-- Repeats the last part.  A question mark behind the operator asks for few repetitions. -/
def repeatLast (p : Progress) (c : Cursor) : Except Flaw (Progress × Cursor) :=
  let missing : Flaw := .at .nothingToRepeat c.position c.position
  match p.branches.parts with
  | [] | .empty _ :: _ | .flags _ _ :: _ => .error missing
  | last :: parts => do
    let ((least, most), d) ← readBounds p.verbose c
    let lazy := d.rest.head? == some '?'
    let d := if lazy then d.bump else d
    if most.any (· < least) then .error ⟨.countsOutOfOrder, [d.since c.position]⟩
    else
      let part := Tree.repetition (d.since last.place.start) least most (!lazy) last
      return ({ p with branches := { p.branches with parts := part :: parts } }, d)

/-! ### All parts -/

/-- Reads the part that starts at a character.  The fuel is at least the number of characters that
    are left. -/
def step (p : Progress) (fuel : Nat) (c : Cursor) (x : Char) : Except Flaw (Progress × Cursor) :=
  match x with
  | '(' => p.openGroup c
  | ')' => (p.closeGroup c).map fun p => (p, c.bump)
  | '|' =>
    .ok ({ p with branches := p.branches.next c.position c.bump.position }, c.bump)
  | '[' => (readClass p.verbose fuel c).map fun (part, d) => (p.add part, d)
  | '?' | '*' | '+' | '\x7b' => p.repeatLast c
  | '\\' => (readEscape p.verbose c).map fun (a, d) => (p.add (.atom a), d)
  | '.' => .ok (p.add (.atom (.any c.here)), c.bump)
  | '^' => .ok (p.add (.atom (.anchor c.here .caret)), c.bump)
  | '$' => .ok (p.add (.atom (.anchor c.here .dollar)), c.bump)
  | x => .ok (p.add (.atom (.literal ⟨c.here, x, false⟩)), c.bump)

/-- What has been read up to the end, if all groups are closed. -/
def finish (p : Progress) (stop : Position) : Except Flaw Tree :=
  match p.groups with
  | [] => .ok (p.branches.tree stop)
  | g :: _ => .error ⟨.unclosedGroup, [g.opening]⟩

/-- Reads all parts.  The fuel is at least the number of characters that are left. -/
def readFrom (p : Progress) : Nat → Cursor → Except Flaw Tree
  | 0, c => p.finish c.position
  | fuel + 1, c =>
    let c := c.skip p.verbose
    match c.rest with
    | [] => p.finish c.position
    | x :: _ =>
      match p.step fuel c x with
      | .error flaw => .error flaw
      | .ok (p, c) => p.readFrom fuel c

end Progress

/-- Reads a pattern, which must not be nested too deep. -/
def Tree.read (text : List Char) : Except Flaw Tree := do
  let tree ← Progress.start.readFrom text.length (.start text)
  match tree.tooDeep? 0 with
  | some place => .error ⟨.tooDeep maxDepth, [place]⟩
  | none => return tree

end Pattern

end TextRules
