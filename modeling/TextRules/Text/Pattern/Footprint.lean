import Std.Data.HashMap
import TextRules.Text.Pattern
import TextRules.Text.Pattern.ByteRange

namespace TextRules

/-!
# Footprints of patterns

A pattern may only be used if two automata for it, one of which reads a text from its end, fit into
a given memory.  The automata read bytes.  Here their states are only counted: each takes some
memory, and more if several ways lead on from it.
-/

namespace Pattern

/-- The memory for an automaton, in bytes. -/
def memory : Nat := 10485760

/-- The memory for a state. -/
def stateSize : Nat := 32

/-- The memory for a range of bytes in a state that has a list of them. -/
def arcSize : Nat := 8

/-- The memory for a way on from a state that reads nothing. -/
def branchSize : Nat := 4

/-- The states of an automaton so far, and the memory for what they hold. -/
structure Tally where
  states : Nat
  held : Nat
  deriving DecidableEq

namespace Tally

/-- Adds states. -/
def add (t : Tally) (states : Nat) : Tally := { t with states := t.states + states }

/-- Adds a state with a list of ranges. -/
def addArcs (t : Tally) (arcs : Nat) : Tally := ⟨t.states + 1, t.held + arcSize * arcs⟩

/-- Adds ways on from a state. -/
def addBranches (t : Tally) (branches : Nat) : Tally :=
  { t with held := t.held + branchSize * branches }

/-- Leads a part on to what follows.  If the part ends with a state that branches, this is one more
    way. -/
def lead (t : Tally) (branches : Bool) : Tally := if branches then t.addBranches 1 else t

/-- Whether there is memory enough. -/
def fits (t : Tally) : Bool := stateSize * t.states + t.held ≤ memory

end Tally

/-- A part of an automaton that has been counted: all states so far, and whether the part ends with
    a state that branches. -/
structure Counted where
  tally : Tally
  branches : Bool

/-- How much a part of an automaton adds to what has been counted before, if there is memory
    enough. -/
abbrev Count := Tally → Option Counted

/-- The count of a part that ends with a state that does not branch. -/
def Tally.closed (t : Tally) : Option Counted := if t.fits then some ⟨t, false⟩ else none

/-- The count of a part that ends with a state that branches. -/
def Tally.open (t : Tally) : Option Counted := if t.fits then some ⟨t, true⟩ else none

/-! ### Sets forwards

States that lead on in the same way are shared, as far as they are remembered: each has a place by
its hash value, and a later one takes the place. -/

/-- A way on by a range of bytes to a state. -/
structure Arc where
  bytes : ByteRange
  next : Nat
  deriving DecidableEq

/-- Mixes a number into a hash value. -/
def mix (hash : UInt64) (n : Nat) : UInt64 := (hash ^^^ n.toUInt64) * 1099511628211

/-- The hash value of nothing. -/
def firstHash : UInt64 := 14695981039346656037

/-- The place of a state among the remembered ones. -/
def slot (arcs : List Arc) : Nat :=
  (arcs.foldl (fun h a => mix (mix (mix h a.bytes.1) a.bytes.2) a.next) firstHash).toNat % 10000

/-- The states of a set so far, and those that are remembered, by their places. -/
structure Shared where
  tally : Tally
  known : Std.HashMap Nat (List Arc × Nat)

/-- The state with some ways on, which is added unless it is remembered. -/
def Shared.state (s : Shared) (arcs : List Arc) : Nat × Shared :=
  let place := slot arcs
  let added := (s.tally.states, ⟨s.tally.addArcs arcs.length,
    s.known.insert place (arcs, s.tally.states)⟩)
  match s.known[place]? with
  | some (known, state) => if known = arcs then (state, s) else added
  | none => added

/-- A state that is not complete: its ways on so far, the last one first, and the bytes of one more
    whose goal is not known yet. -/
structure OpenState where
  arcs : List Arc
  last : Option ByteRange

/-- The ways on from a state whose last one leads to a given goal. -/
def OpenState.complete (o : OpenState) (goal : Nat) : List Arc :=
  (o.last.map fun bytes => Arc.mk bytes goal).toList ++ o.arcs

/-- Completes states each of which leads on to the next, and the last one to a goal.  The result is
    the first of them. -/
def Shared.complete (s : Shared) (goal : Nat) (path : List OpenState) : Nat × Shared :=
  path.foldr (fun o (goal, s) => s.state (o.complete goal).reverse) (goal, s)

/-- The states for the rest of a sequence. -/
def openStates (rest : List ByteRange) : List OpenState := rest.map fun bytes => ⟨[], some bytes⟩

/-- Takes in a sequence behind a path of open states.  What the sequence does not share with the
    path is completed. -/
def Shared.add (goal : Nat) (s : Shared) :
    List OpenState → List ByteRange → List OpenState × Shared
  | o :: path, bytes :: rest =>
    if o.last = some bytes then
      let (path, s) := Shared.add goal s path rest
      (o :: path, s)
    else
      let (next, s) := s.complete goal path
      (⟨o.complete next, some bytes⟩ :: openStates rest, s)
  | path, _ => (path, s)

/-- Counts the states for a set of characters, read forwards. -/
def countForward (chars : CharSet) (t : Tally) : Tally :=
  let goal := t.states
  let (path, s) := (allSequences chars.ranges).foldl
    (fun (path, s) sequence => Shared.add goal s path sequence)
    ([⟨[], none⟩], ⟨t.add 1, ∅⟩)
  (s.complete goal path).2.tally

/-! ### Sets backwards

Ends of sequences are shared, as far as they are remembered. -/

/-- The place of a state that leads on by a range of bytes. -/
def slotBackwards (a : Arc) : Nat :=
  (mix (mix (mix firstHash a.next) a.bytes.1) a.bytes.2).toNat % 1000

/-- The states of a set so far, those that are remembered, and the present one. -/
structure SharedBackwards where
  tally : Tally
  known : Std.HashMap Nat (Arc × Nat)
  present : Nat

/-- Goes on by a range of bytes. -/
def SharedBackwards.step (s : SharedBackwards) (bytes : ByteRange) : SharedBackwards :=
  let arc : Arc := ⟨bytes, s.present⟩
  let place := slotBackwards arc
  let state := s.tally.states
  let added : SharedBackwards := ⟨s.tally.add 1, s.known.insert place (arc, state), state⟩
  match s.known[place]? with
  | some (known, state) => if known = arc then { s with present := state } else added
  | none => added

/-- Counts the states for a set of characters, read backwards. -/
def countBackward (chars : CharSet) (t : Tally) : Tally :=
  let goal := t.states + 1
  let s := (allSequences chars.ranges).foldl
    (fun s sequence =>
      let s := sequence.foldl SharedBackwards.step { s with present := goal }
      { s with tally := s.tally.addBranches 1 })
    (⟨t.add 2, ∅, goal⟩ : SharedBackwards)
  s.tally

/-- Counts the states for a set.  Characters of ASCII are told apart in a single state. -/
def countSet (backward : Bool) (chars : CharSet) : Count := fun t =>
  if chars.isAscii then ((t.add 1).addArcs chars.ranges.length).closed
  else if backward then (countBackward chars t).closed
  else (countForward chars t).closed

/-! ### Texts as alternatives -/

/-- A place in a tree of texts: the numbers of ways on in front of each end of a text, and the ways
    on behind the last one. -/
structure Fork where
  closed : List Nat
  ways : List (Nat × Nat)

/-- The tree of a set of texts without any. -/
def firstForks : Array Fork := #[⟨[], []⟩]

/-- Goes on by a byte from a place in a tree. -/
def walk (forks : Array Fork) (place byte : Nat) : Array Fork × Nat :=
  match forks[place]? with
  | none => (forks, place)
  | some fork =>
    match fork.ways.find? fun way => way.1 = byte with
    | some (_, next) => (forks, next)
    | none =>
      let next := forks.size
      ((forks.setIfInBounds place { fork with ways := (byte, next) :: fork.ways }).push ⟨[], []⟩,
        next)

/-- Whether no way leads on from a place. -/
def Fork.isLeaf (fork : Fork) : Bool := fork.ways.isEmpty && fork.closed.all (· == 0)

/-- Marks the end of a text.  A place that is an end, and no more than that, stays as it is. -/
def Fork.close (fork : Fork) : Fork :=
  if fork.isLeaf && !fork.closed.isEmpty then fork
  else ⟨fork.closed ++ [fork.ways.length], []⟩

/-- Takes in a text. -/
def plant (forks : Array Fork) (text : List Nat) : Array Fork :=
  let (forks, place) := text.foldl (fun (forks, place) byte => walk forks place byte) (forks, 0)
  forks.modify place Fork.close

/-- Adds the states for a list of ways on, if there are any. -/
def Tally.addWays (t : Tally) (ways : Nat) : Tally :=
  if ways = 0 then t
  else if ways = 1 then (t.add 1).addBranches 1
  else (t.addArcs ways).addBranches 1

/-- Adds the states for a place in a tree. -/
def Tally.addFork (t : Tally) (fork : Fork) : Tally :=
  if fork.isLeaf then t
  else
    let t := (fork.closed ++ [fork.ways.length]).foldl Tally.addWays t
    (t.add 1).addBranches fork.closed.length

/-- Counts the states for one of several texts. -/
def countTexts (backward : Bool) (texts : List (List Char)) : Count := fun t =>
  let bytesOf (text : List Char) : List Nat :=
    let all := text.flatMap fun c => bytes c.toNat
    if backward then all.reverse else all
  let forks := texts.foldl (fun forks text => plant forks (bytesOf text)) firstForks
  (forks.foldl Tally.addFork (t.add 1)).closed

/-! ### Repetition -/

/-- Counts several copies of a part behind one that may branch at its end. -/
def countCopies (part : Count) : Nat → Bool → Count
  | 0, branches, t => if t.fits then some ⟨t, branches⟩ else none
  | n + 1, branches, t =>
    match part t with
    | none => none
    | some c => countCopies part n c.branches (c.tally.lead branches)

/-- Counts several copies of a part, or a state that stands for none. -/
def countTimes (part : Count) (n : Nat) : Count := fun t =>
  match n with
  | 0 => (t.add 1).closed
  | n + 1 => (part t).bind fun c => countCopies part n c.branches c.tally

/-- Counts any number of copies of a part. -/
def countMany (part : Count) (canBeEmpty : Bool) : Count := fun t =>
  if canBeEmpty then
    (part t).bind fun c => (((c.tally.lead c.branches).add 3).addBranches 4).closed
  else (part (t.add 1)).bind fun c => ((c.tally.lead c.branches).addBranches 1).open

/-- Counts copies of a part that may be left out, each only if those behind it are. -/
def countOptional (part : Count) : Nat → Bool → Count
  | 0, branches, t => (t.lead branches).closed
  | n + 1, branches, t =>
    match part (t.add 1) with
    | none => none
    | some c => countOptional part n c.branches ((c.tally.lead branches).addBranches 2)

/-- Counts copies of a part within bounds. -/
def countRepetition (part : Count) (canBeEmpty : Bool) (least : Nat) (most : Option Nat) :
    Count := fun t =>
  match least, most with
  | 0, some 1 =>
    (part (t.add 1)).bind fun c => (((c.tally.add 1).addBranches 2).lead c.branches).closed
  | 0, none => countMany part canBeEmpty t
  | least + 1, none =>
    (countTimes part (least + 1) t).bind fun c =>
      (((c.tally.add 1).lead c.branches).addBranches 1).open
  | least, some most =>
    (countTimes part least t).bind fun c =>
      if least = most then some c else countOptional part (most - least) c.branches (c.tally.add 1)

/-! ### Patterns -/

/-- The text of a pattern that is nothing else. -/
def text? : Pattern → Option (List Char)
  | .literal text => some text
  | _ => none

mutual

/-- The pattern that matches the parts of all sequences in the opposite order. -/
def backwards : Pattern → Pattern
  | .repetition least most greedy p => .repetition least most greedy p.backwards
  | .capture index p => .capture index p.backwards
  | .sequence ps => .sequence (allBackwards [] ps)
  | .choice ps => .choice (allBackwards [] ps).reverse
  | p => p

/-- The patterns backwards, in the opposite order, in front of others. -/
def allBackwards (behind : List Pattern) : List Pattern → List Pattern
  | [] => behind
  | p :: ps => allBackwards (p.backwards :: behind) ps

end

mutual

/-- Counts the states for a pattern.  Marked parts have states of their own only forwards. -/
def count (backward : Bool) : Pattern → Count
  | .empty, t | .edge _, t => (t.add 1).closed
  | .literal text, t => (t.add (text.foldl (fun n c => n + c.utf8Size) 0)).closed
  | .set _ chars, t => countSet backward chars t
  | .repetition least most _ p, t =>
    countRepetition (p.count backward) (p.minLength?.all (· == 0)) least most t
  | .capture _ p, t =>
    if backward then p.count backward t
    else (p.count backward (t.add 1)).bind fun c => ((c.tally.add 1).lead c.branches).closed
  | .sequence ps, t => countInOrder backward none ps t
  | .choice ps, t =>
    match ps.mapM text? with
    | some texts => countTexts backward texts t
    | none => countOptions backward 0 ps t

/-- Counts the states for patterns in a row, the first of which follows a part that may branch at
    its end. -/
def countInOrder (backward : Bool) (before : Option Bool) : List Pattern → Count
  | [], t => if t.fits then some ⟨t, before.getD false⟩ else none
  | p :: ps, t =>
    match p.count backward t with
    | none => none
    | some c => countInOrder backward (some c.branches) ps (c.tally.lead (before.getD false))

/-- Counts the states for alternatives behind a number of others.  Those that lead to them and from
    them are added behind the second one. -/
def countOptions (backward : Bool) (before : Nat) : List Pattern → Count
  | [], t => t.closed
  | p :: ps, t =>
    match p.count backward t with
    | none => none
    | some c =>
      let t := (c.tally.lead c.branches).addBranches 1
      countOptions backward (before + 1) ps (if before = 1 then t.add 2 else t)

end

/-- The states in front of a pattern.  Unless it has to start at the end where reading starts, they
    read what is in front of it. -/
def firstTally (anchored : Bool) : Tally :=
  if anchored then ⟨1, 0⟩ else (((⟨0, 0⟩ : Tally).add 2).addArcs 1).addBranches 2

/-- Whether both automata for a pattern fit into the memory. -/
def fits (p : Pattern) : Bool :=
  let forward := (Pattern.capture 0 p).count false (firstTally p.startsText)
  let backward := p.backwards.count true (firstTally p.endsText)
  (forward.any fun c => (c.tally.add 1).fits) &&
    backward.any fun c => ((c.tally.lead c.branches).add 1).fits

end Pattern

end TextRules
