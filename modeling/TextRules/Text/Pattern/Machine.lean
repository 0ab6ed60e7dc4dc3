import TextRules.Text.Pattern.Place

namespace TextRules

/-!
# Looking for patterns

A pattern is looked for by a machine.  Its states form a row, and most of them lead on to the next
one.  All ways through the row are followed at once, one character after the other; the machine has
found the pattern as soon as one way leads behind the last state.
-/

namespace Pattern

/-! ### States -/

/-- What a state does: it reads a character, checks a condition, or just leads on, to a state that
    lies a given number of states ahead or back, and to the next one unless it is a jump. -/
inductive State
  | char (c : Char)
  | set (ranges : Array (Nat × Nat))
  | edge (e : Edge)
  | fork (ahead : Nat)
  | jump (ahead : Nat)
  | loop (back : Nat)

/-- Whether a state reads a character. -/
def State.reads (state : State) (c : Char) : Bool :=
  match state with
  | .char x => x == c
  | .set ranges => isWithin ranges c.toNat
  | _ => false

/-! ### From patterns to states -/

/-- Several copies of some states, in front of others. -/
def copies (states : List State) : Nat → List State → List State
  | 0, behind => behind
  | n + 1, behind => copies states n (states ++ behind)

/-- Copies of some states, each of which can be left out together with those behind it.  The number
    of states that are already behind is given. -/
def optionalCopies (states : List State) (size : Nat) : Nat → Nat → List State → List State
  | 0, _, behind => behind
  | n + 1, length, behind =>
    optionalCopies states size n (length + size + 1)
      (.fork (length + size + 1) :: (states ++ behind))

/-- The states for several copies of a part. -/
def repeated (states : List State) (least : Nat) (most : Option Nat) : List State :=
  let size := states.length
  match least, most with
  | 0, none => .fork (size + 2) :: (states ++ [.loop size])
  | least, none => copies states least [.loop size]
  | least, some most => copies states least (optionalCopies states size (most - least) 0 [])

/-- The states for one of several parts, which are given with the last one first. -/
def alternatives : List (List State) → List State
  | [] => [.set #[]]
  | last :: rest =>
    (rest.foldl
      (fun (length, behind) states =>
        let size := states.length
        (length + size + 2, .fork (size + 2) :: (states ++ .jump (length + 1) :: behind)))
      (last.length, last)).2

mutual

/-- The states for a pattern. -/
def states : Pattern → List State
  | .empty => []
  | .literal text => text.map .char
  | .set _ chars => [.set chars.ranges.toArray]
  | .edge e => [.edge e]
  | .repetition least most _ part => repeated part.states least most
  | .capture _ part => part.states
  | .sequence parts => (allStates [] parts).foldl (fun behind states => states ++ behind) []
  | .choice options => alternatives (allStates [] options)

/-- The states for each of several patterns, behind those for others, the last ones first. -/
def allStates (known : List (List State)) : List Pattern → List (List State)
  | [] => known
  | p :: ps => allStates (p.states :: known) ps

end

/-! ### Running -/

/-- A machine that looks for a pattern. -/
structure Machine where
  states : Array State

/-- The machine for a pattern. -/
def machine (p : Pattern) : Machine := ⟨p.states.toArray⟩

namespace Machine

/-- How far the ways through a machine have been followed at a place: for each state, the last place
    where a way has led to it, the states that read on, and whether the pattern has been found. -/
structure Front where
  visited : Array Nat
  readers : List Nat
  found : Bool

/-- Follows all ways from some states up to those that read.  Places are numbered.  Each state is
    followed once, so that the fuel need not be more than the number of states to start with and
    twice the number of all states. -/
def follow (m : Machine) (number : Nat) (place : Place) (visited : Array Nat)
    (readers : List Nat) : Nat → List Nat → Front
  | 0, _ => ⟨visited, readers, false⟩
  | _, [] => ⟨visited, readers, false⟩
  | fuel + 1, i :: rest =>
    match m.states[i]? with
    | none => ⟨visited, readers, true⟩
    | some state =>
      if visited[i]? = some number then m.follow number place visited readers fuel rest
      else
        let visited := visited.setIfInBounds i number
        match state with
        | .char _ | .set _ => m.follow number place visited (i :: readers) fuel rest
        | .edge e =>
          let rest := if e.holds place then (i + 1) :: rest else rest
          m.follow number place visited readers fuel rest
        | .fork ahead => m.follow number place visited readers fuel ((i + 1) :: (i + ahead) :: rest)
        | .jump ahead => m.follow number place visited readers fuel ((i + ahead) :: rest)
        | .loop back => m.follow number place visited readers fuel ((i - back) :: (i + 1) :: rest)

/-- The states behind those that read a character. -/
def advance (m : Machine) (c : Char) (readers : List Nat) : List Nat :=
  readers.filterMap fun i => if m.states[i]?.any fun s => s.reads c then some (i + 1) else none

/-- Follows all ways through the rest of a text, and those that start in it. -/
def findsFrom (m : Machine) (number : Nat) (before : Option Char) (visited : Array Nat)
    (active : List Nat) (text : List Char) : Bool :=
  let starts := 0 :: active
  let fuel := starts.length + 2 * m.states.size
  match text with
  | [] => (m.follow number ⟨before, none⟩ visited [] fuel starts).found
  | c :: rest =>
    let front := m.follow number ⟨before, some c⟩ visited [] fuel starts
    if front.found then true
    else m.findsFrom (number + 1) (some c) front.visited (m.advance c front.readers) rest

/-- Whether the pattern occurs in a text. -/
def finds (m : Machine) (text : String) : Bool :=
  m.findsFrom 1 none (Array.replicate m.states.size 0) [] text.toList

end Machine

/-- Whether a pattern occurs in a text. -/
def occursIn (p : Pattern) (text : String) : Bool := p.machine.finds text

example : (inOrder [.literal ['a'], times 1 none true .empty]).occursIn "xab" = true := by cbv

example : (times 2 none true (.literal ['b'])).occursIn "abb" = true := by cbv

example : (anyOf [.literal ['a', 'c'], .edge .textEnd]).occursIn "ab" = true := by cbv

example : (inOrder [.edge .textStart, .literal ['b']]).occursIn "ab" = false := by cbv

end Pattern

end TextRules
