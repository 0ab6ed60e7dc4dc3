import TextRules.Text.CharSet

namespace TextRules

/-!
# Patterns

Regular expressions over texts, in the form in which they are looked for.  They are put together in
such a way that what can be said more simply is said so: neighbouring characters become one text,
and alternatives that are single characters become a set.
-/

/-- What a place has to do with words. -/
inductive WordEdge
  | boundary
  | noBoundary
  | start
  | stop
  | noneBefore
  | noneAfter
  deriving DecidableEq

/-- A condition on a place in a text.  Lines end with a line feed; if `crlf` is set, also with a
    carriage return or with both.  Words consist of word characters, or only of those in ASCII. -/
inductive Edge
  | textStart
  | textEnd
  | lineStart (crlf : Bool)
  | lineEnd (crlf : Bool)
  | word (ascii : Bool) (edge : WordEdge)
  deriving DecidableEq

/-- A pattern.  A set can be one of bytes, all of which are then ASCII. -/
inductive Pattern
  | empty
  | literal (text : List Char)
  | set (bytes : Bool) (chars : CharSet)
  | edge (e : Edge)
  | repetition (least : Nat) (most : Option Nat) (greedy : Bool) (part : Pattern)
  | capture (index : Nat) (part : Pattern)
  | sequence (parts : List Pattern)
  | choice (options : List Pattern)

namespace Pattern

/-! ### Equality -/

mutual

/-- Whether two patterns are the same. -/
def same : Pattern → Pattern → Bool
  | .empty, .empty => true
  | .literal s, .literal t => s == t
  | .set b s, .set c t => b == c && s == t
  | .edge e, .edge f => e == f
  | .repetition k m g p, .repetition l n h q => k == l && m == n && g == h && p.same q
  | .capture i p, .capture j q => i == j && p.same q
  | .sequence ps, .sequence qs => allSame ps qs
  | .choice ps, .choice qs => allSame ps qs
  | _, _ => false

/-- Whether two lists of patterns are the same. -/
def allSame : List Pattern → List Pattern → Bool
  | [], [] => true
  | p :: ps, q :: qs => if p.same q then allSame ps qs else false
  | _, _ => false

end

/-- How many patterns two lists have in common at their beginnings. -/
def commonLength (found : Nat) : List Pattern → List Pattern → Nat
  | p :: ps, q :: qs => if p.same q then commonLength (found + 1) ps qs else found
  | _, _ => found

/-! ### Lengths -/

/-- The number of bytes of the character with a code point. -/
def byteCount (n : Nat) : Nat :=
  if n < 0x80 then 1 else if n < 0x800 then 2 else if n < 0x10000 then 3 else 4

/-- The smaller one of two lengths, both of which have to be there. -/
def lesser (a b : Option Nat) : Option Nat := a.bind fun x => b.map fun y => min x y

/-- The larger one of two lengths, both of which have to be there. -/
def greater (a b : Option Nat) : Option Nat := a.bind fun x => b.map fun y => max x y

/-- The sum of two lengths, both of which have to be there. -/
def sum (a b : Option Nat) : Option Nat := a.bind fun x => b.map fun y => x + y

mutual

/-- The least number of bytes that a pattern matches, if it can match anything. -/
def minLength? : Pattern → Option Nat
  | .empty | .edge _ => some 0
  | .literal text => some (text.foldl (fun n c => n + c.utf8Size) 0)
  | .set _ s => s.ranges.head?.map fun range => byteCount range.1
  | .repetition least _ _ p => p.minLength?.map (least * ·)
  | .capture _ p => p.minLength?
  | .sequence ps => minLengthOfAll (some 0) ps
  | .choice [] => none
  | .choice (p :: ps) => minLengthOfAny p.minLength? ps

/-- The least length of patterns in a row behind others of a given least length. -/
def minLengthOfAll (before : Option Nat) : List Pattern → Option Nat
  | [] => before
  | p :: ps => minLengthOfAll (sum before p.minLength?) ps

/-- The least length of one of several patterns, or of others of a given least length. -/
def minLengthOfAny (before : Option Nat) : List Pattern → Option Nat
  | [] => before
  | p :: ps => minLengthOfAny (lesser before p.minLength?) ps

end

mutual

/-- The greatest number of bytes that a pattern matches, if there is one. -/
def maxLength? : Pattern → Option Nat
  | .empty | .edge _ => some 0
  | .literal text => some (text.foldl (fun n c => n + c.utf8Size) 0)
  | .set _ s => s.ranges.getLast?.map fun range => byteCount range.2
  | .repetition _ most _ p => most.bind fun n => p.maxLength?.map (n * ·)
  | .capture _ p => p.maxLength?
  | .sequence ps => maxLengthOfAll (some 0) ps
  | .choice [] => none
  | .choice (p :: ps) => maxLengthOfAny p.maxLength? ps

/-- The greatest length of patterns in a row behind others of a given greatest length. -/
def maxLengthOfAll (before : Option Nat) : List Pattern → Option Nat
  | [] => before
  | p :: ps => maxLengthOfAll (sum before p.maxLength?) ps

/-- The greatest length of one of several patterns, or of others of a given greatest length. -/
def maxLengthOfAny (before : Option Nat) : List Pattern → Option Nat
  | [] => before
  | p :: ps => maxLengthOfAny (greater before p.maxLength?) ps

end

/-! ### Sets -/

/-- No text. -/
def nothing : Pattern := .set true ⟨[]⟩

/-- One character of a set. -/
def ofSet (bytes : Bool) (chars : CharSet) : Pattern :=
  match chars.ranges with
  | [] => nothing
  | [(first, last)] => if first = last then .literal [Char.ofNat first] else .set bytes chars
  | _ => .set bytes chars

/-! ### Repetition -/

/-- A pattern several times in a row.  What matches only the empty text need not be repeated. -/
def times (least : Nat) (most : Option Nat) (greedy : Bool) (part : Pattern) : Pattern :=
  let isEmpty := part.maxLength? == some 0
  let least := if isEmpty then min least 1 else least
  let most := if isEmpty then some (min (most.getD 1) 1) else most
  if least = 0 ∧ most = some 0 then .empty
  else if least = 1 ∧ most = some 1 then part
  else .repetition least most greedy part

/-! ### Sequences -/

/-- The parts of a pattern that is a sequence, or the pattern itself unless it is empty. -/
def parts : Pattern → List Pattern
  | .sequence ps => ps
  | .empty => []
  | p => [p]

/-- Parts that have been put together, the last one first, and the characters behind them, the last
    one first. -/
structure Joined where
  done : List Pattern
  pending : List Char

namespace Joined

/-- All parts, the last one first. -/
def all (j : Joined) : List Pattern :=
  if j.pending.isEmpty then j.done else .literal j.pending.reverse :: j.done

/-- Puts one more part behind those before. -/
def add (j : Joined) (p : Pattern) : Joined :=
  match p with
  | .literal text => { j with pending := text.reverse ++ j.pending }
  | p => ⟨p :: j.all, []⟩

end Joined

/-- Patterns one after another. -/
def inOrder (ps : List Pattern) : Pattern :=
  match ((ps.flatMap parts).foldl Joined.add ⟨[], []⟩).all with
  | [] => .empty
  | [p] => p
  | ps => .sequence ps.reverse

/-! ### Alternatives -/

/-- The options of a pattern that is a choice, or the pattern itself. -/
def options : Pattern → List Pattern
  | .choice ps => ps
  | p => [p]

/-- The only character of a text. -/
def onlyChar? : Pattern → Option (Nat × Nat)
  | .literal [c] => some (c.toNat, c.toNat)
  | _ => none

/-- The characters of a set. -/
def setRanges? : Pattern → Option (List (Nat × Nat))
  | .set _ s => some s.ranges
  | _ => none

/-- One of several patterns that are no choices.  Single characters, or else sets, make up one
    set. -/
def oneOf (ps : List Pattern) : Pattern :=
  match ps with
  | [] => nothing
  | [p] => p
  | ps =>
    match ps.mapM onlyChar? with
    | some chars => ofSet false (.ofRanges chars)
    | none =>
      match ps.mapM setRanges? with
      | some ranges => ofSet false (.ofRanges ranges.flatten)
      | none => .choice ps

/-- The parts of a sequence. -/
def sequenceParts? : Pattern → Option (List Pattern)
  | .sequence ps => some ps
  | _ => none

/-- One of several patterns.  What all of them begin with stands in front of the choice. -/
def anyOf (ps : List Pattern) : Pattern :=
  let ps := ps.flatMap options
  match ps, oneOf ps with
  | first :: rest, .choice options =>
    match first.sequenceParts?, options.mapM sequenceParts? with
    | some shared, some sequences =>
      let common := rest.foldl
        (fun n p => commonLength 0 (shared.take n) ((p.sequenceParts?).getD [])) shared.length
      if common = 0 then .choice options
      else
        let behind := sequences.map fun parts => inOrder (parts.drop common)
        inOrder (shared.take common ++ [oneOf (behind.flatMap Pattern.options)])
    | _, _ => .choice options
  | _, p => p

/-! ### Conditions at both ends -/

mutual

/-- Whether a pattern has to start where the text starts. -/
def startsText : Pattern → Bool
  | .edge .textStart => true
  | .repetition least _ _ p => decide (0 < least) && p.startsText
  | .capture _ p => p.startsText
  | .sequence ps => firstStartsText ps
  | .choice [] => false
  | .choice (p :: ps) => p.startsText && allStartText ps
  | _ => false

/-- Whether one of several patterns in a row has to start where the text starts, and those in front
    of it match only the empty text. -/
def firstStartsText : List Pattern → Bool
  | [] => false
  | p :: ps => if p.startsText then true else p.maxLength? == some 0 && firstStartsText ps

/-- Whether several patterns have to start where the text starts. -/
def allStartText : List Pattern → Bool
  | [] => true
  | p :: ps => if p.startsText then allStartText ps else false

end

mutual

/-- Whether a pattern has to stop where the text ends. -/
def endsText : Pattern → Bool
  | .edge .textEnd => true
  | .repetition least _ _ p => decide (0 < least) && p.endsText
  | .capture _ p => p.endsText
  | .sequence ps => lastEndsText false ps
  | .choice [] => false
  | .choice (p :: ps) => p.endsText && allEndText ps
  | _ => false

/-- Whether one of several patterns in a row has to stop where the text ends, and those behind it
    match only the empty text.  It is given whether this holds of those in front of them. -/
def lastEndsText (before : Bool) : List Pattern → Bool
  | [] => before
  | p :: ps => lastEndsText (p.endsText || (before && p.maxLength? == some 0)) ps

/-- Whether several patterns have to stop where the text ends. -/
def allEndText : List Pattern → Bool
  | [] => true
  | p :: ps => if p.endsText then allEndText ps else false

end

end Pattern

end TextRules
