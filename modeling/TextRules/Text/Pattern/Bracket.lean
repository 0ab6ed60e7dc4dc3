import TextRules.Text.Pattern.Escape

namespace TextRules

/-!
# Classes between brackets

A class lists characters, ranges, escapes and classes of its own.  Two hyphens, ampersands or
tildes between two lists take the difference, the intersection or the symmetric difference of all
that stands before and what follows.
-/

namespace Pattern

/-! ### Named classes -/

/-- The ASCII classes that have names. -/
def asciiClass? (name : String) : Option CharSet :=
  match name with
  | "alnum" => some (.ofText "30-39 41-5A 61-7A")
  | "alpha" => some (.ofText "41-5A 61-7A")
  | "ascii" => some (.ofText "0-7F")
  | "blank" => some (.ofText "9 20")
  | "cntrl" => some (.ofText "0-1F 7F")
  | "digit" => some (.ofText "30-39")
  | "graph" => some (.ofText "21-7E")
  | "lower" => some (.ofText "61-7A")
  | "print" => some (.ofText "20-7E")
  | "punct" => some (.ofText "21-2F 3A-40 5B-60 7B-7E")
  | "space" => some (.ofText "9-D 20")
  | "upper" => some (.ofText "41-5A")
  | "word" => some (.ofText "30-39 41-5A 5F 61-7A")
  | "xdigit" => some (.ofText "30-39 41-46 61-66")
  | _ => none

/-- Reads the name of a class between colons, at a bracket.  A caret in front of the name takes the
    complement. -/
def readNamed? (c : Cursor) : Option (Members × Cursor) :=
  match c.rest with
  | '[' :: ':' :: body =>
    let negated := body.head? == some '^'
    let body := if negated then body.drop 1 else body
    let name := body.takeWhile fun x => x != ':'
    match body.drop name.length with
    | ':' :: ']' :: _ =>
      (asciiClass? (String.ofList name)).map fun chars =>
        let behind := c.bumps (name.length + if negated then 5 else 4)
        (.ascii (behind.since c.position) chars negated, behind)
    | _ => none
  | _ => none

/-! ### Members -/

/-- Reads a single member. -/
def readMember (verbose : Bool) : Reader Atom := fun c =>
  match c.rest with
  | [] => .error (.at .unclosedClass c.position c.position)
  | '\\' :: _ => readEscape verbose c
  | x :: _ => .ok (.literal ⟨c.here, x, false⟩, c.bump)

/-- A member that is not part of a range. -/
def Atom.member : Atom → Except Flaw Members
  | .literal l => .ok (.literal l)
  | .kind place k negated => .ok (.kind place k negated)
  | .property place query negated => .ok (.property place query negated)
  | .any place | .anchor place _ => .error ⟨.badClassMember, [place]⟩

/-- The end of a range. -/
def Atom.rangeEnd : Atom → Except Flaw Literal
  | .literal l => .ok l
  | a => .error ⟨.badRangeEnd, [a.place]⟩

/-- Reads a member or a range of a class that has been opened at a place.  A hyphen makes a range
    unless a bracket or another hyphen follows. -/
def readRange (verbose : Bool) (opening : Stretch) : Reader Members := fun c => do
  let (first, c) ← readMember verbose c
  let c := c.skip verbose
  let unclosed : Flaw := ⟨.unclosedClass, [opening]⟩
  match c.rest with
  | [] => .error unclosed
  | x :: _ =>
    let second := c.second? verbose
    if x ≠ '-' ∨ second = some ']' ∨ second = some '-' then return (← first.member, c)
    else
      let c := c.bumpSkip verbose
      if c.rest.isEmpty then .error unclosed
      else
        let (last, behind) ← readMember verbose c
        let place : Stretch := ⟨first.place.start, last.place.stop⟩
        let first ← first.rangeEnd
        let last ← last.rangeEnd
        if first.char ≤ last.char then return (.range place first last, behind)
        else .error ⟨.badClassRange, [place]⟩

/-! ### Open classes -/

/-- A list of members, the last one first, and where it stands. -/
structure MemberList where
  place : Stretch
  items : List Members

namespace MemberList

/-- No members. -/
def start (p : Position) : MemberList := ⟨.none p, []⟩

/-- Takes in one more member. -/
def add (l : MemberList) (m : Members) : MemberList :=
  let start := if l.items.isEmpty then m.place.start else l.place.start
  ⟨⟨start, m.place.stop⟩, m :: l.items⟩

/-- All members. -/
def members (l : MemberList) : Members :=
  match l.items with
  | [] => .nothing l.place
  | [m] => m
  | items => .list l.place items.reverse

end MemberList

/-- A class whose closing bracket is still to come: where it has been opened, whether it is a
    complement, what stands before the present list and is to be combined with it, and that
    list. -/
structure OpenClass where
  opening : Stretch
  negated : Bool
  left : Option (SetOperation × Members)
  list : MemberList

namespace OpenClass

/-- Takes a member into the present list. -/
def add (o : OpenClass) (m : Members) : OpenClass := { o with list := o.list.add m }

/-- All that has been read. -/
def members (o : OpenClass) : Members :=
  let right := o.list.members
  match o.left with
  | none => right
  | some (operation, left) =>
    .combined ⟨left.place.start, right.place.stop⟩ operation left right

/-- Ends the present list.  All that has been read is combined with the next one. -/
def next (o : OpenClass) (operation : SetOperation) (p : Position) : OpenClass :=
  { o with left := some (operation, o.members), list := .start p }

/-- The stretch of the class, if it ends at some place. -/
def place (o : OpenClass) (stop : Position) : Stretch := ⟨o.opening.start, stop⟩

end OpenClass

/-- Reads the hyphens at the beginning of a class into its list. -/
def readHyphens (verbose : Bool) (list : MemberList) (c : Cursor) : MemberList × Cursor :=
  match _ : c.rest with
  | [] => (list, c)
  | x :: _ =>
    if x = '-' then
      readHyphens verbose (list.add (.literal ⟨c.here, '-', false⟩)) (c.bumpSkip verbose)
    else (list, c)
termination_by c.rest.length
decreasing_by exact c.length_bumpSkip_lt verbose ‹_›

/-- Opens a class at its bracket.  A caret takes the complement; hyphens, or else a closing bracket,
    are members if they stand first. -/
def openClass (verbose : Bool) : Reader OpenClass := fun c =>
  let start := c.position
  let c := c.bumpSkip verbose
  let negated := c.rest.head? == some '^'
  let c := if negated then c.bumpSkip verbose else c
  if c.rest.isEmpty then .error (.at .unclosedClass start c.position)
  else
    let (list, c) := readHyphens verbose (.start c.position) c
    if c.rest.isEmpty then .error (.at .unclosedClass start start)
    else if list.items.isEmpty ∧ c.rest.head? = some ']' then
      let list := list.add (.literal ⟨c.here, ']', false⟩)
      let c := c.bumpSkip verbose
      if c.rest.isEmpty then .error (.at .unclosedClass start c.position)
      else .ok (⟨c.since start, negated, none, list⟩, c)
    else .ok (⟨c.since start, negated, none, list⟩, c)

/-! ### Whole classes -/

/-- The operation that two equal characters stand for. -/
def operation? (x y : Char) : Option SetOperation :=
  match x, y with
  | '&', '&' => some .intersection
  | '-', '-' => some .difference
  | '~', '~' => some .symmetricDifference
  | _, _ => none

/-- Reads on in a class with others around it, up to the closing bracket of the outermost one.  The
    fuel is at least the number of characters that are left. -/
def readMembers (verbose : Bool) (o : OpenClass) (outer : List OpenClass) : Nat → Reader Tree
  | 0, _ => .error ⟨.unclosedClass, [o.opening]⟩
  | fuel + 1, c =>
    let c := c.skip verbose
    match c.rest with
    | [] => .error ⟨.unclosedClass, [o.opening]⟩
    | '[' :: _ =>
      match readNamed? c with
      | some (m, c) => readMembers verbose (o.add m) outer fuel c
      | none =>
        match openClass verbose c with
        | .error flaw => .error flaw
        | .ok (inner, c) => readMembers verbose inner (o :: outer) fuel c
    | ']' :: _ =>
      let c := c.bump
      let place := o.place c.position
      match outer with
      | [] => .ok (.brackets place o.negated o.members, c)
      | around :: outer =>
        readMembers verbose (around.add (.brackets place o.negated o.members)) outer fuel c
    | x :: rest =>
      match rest.head?.bind (operation? x) with
      | some operation =>
        let c := c.bumps 2
        readMembers verbose (o.next operation c.position) outer fuel c
      | none =>
        match readRange verbose o.opening c with
        | .error flaw => .error flaw
        | .ok (m, c) => readMembers verbose (o.add m) outer fuel c

/-- Reads a class at its bracket.  The fuel is at least the number of characters that are left. -/
def readClass (verbose : Bool) (fuel : Nat) : Reader Tree := fun c => do
  let (o, c) ← openClass verbose c
  readMembers verbose o [] fuel c

end Pattern

end TextRules
