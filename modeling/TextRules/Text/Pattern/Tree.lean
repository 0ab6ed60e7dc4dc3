import TextRules.Text.Pattern
import TextRules.Text.Pattern.Fault
import TextRules.Text.Property

namespace TextRules

/-!
# Syntax of patterns

What a pattern consists of as it is written, each part with its place in the text.
-/

namespace Pattern

/-! ### Parts that are not put together -/

/-- A character that stands for itself.  It can be written as the number of a byte. -/
structure Literal where
  place : Stretch
  char : Char
  isByte : Bool
  deriving DecidableEq

/-- A kind of character that has a letter of its own. -/
inductive CharKind
  | digit
  | space
  | word
  deriving DecidableEq

/-- A condition on a place, as it is written. -/
inductive Anchor
  | caret
  | dollar
  | textStart
  | textEnd
  | word (edge : WordEdge)
  deriving DecidableEq

/-- A part that is not put together from others. -/
inductive Atom
  | literal (l : Literal)
  | any (place : Stretch)
  | anchor (place : Stretch) (anchor : Anchor)
  | kind (place : Stretch) (kind : CharKind) (negated : Bool)
  | property (place : Stretch) (query : PropertyQuery) (negated : Bool)
  deriving DecidableEq

/-- Where a part stands. -/
def Atom.place : Atom → Stretch
  | .literal l => l.place
  | .any place | .anchor place _ | .kind place _ _ | .property place _ _ => place

/-! ### Flags -/

/-- A way to read what follows. -/
inductive Flag
  | ignoreCase
  | multiLine
  | dotAll
  | swapGreed
  | unicode
  | crlf
  | verbose
  deriving DecidableEq

/-- The flag with a given letter. -/
def Flag.ofLetter? (c : Char) : Option Flag :=
  match c with
  | 'i' => some .ignoreCase
  | 'm' => some .multiLine
  | 's' => some .dotAll
  | 'U' => some .swapGreed
  | 'u' => some .unicode
  | 'R' => some .crlf
  | 'x' => some .verbose
  | _ => none

/-- A flag, or a hyphen among flags, with its place. -/
structure FlagItem where
  flag : Option Flag
  place : Stretch
  deriving DecidableEq

/-- The flags that are set once some more have been named.  Those behind a hyphen are taken away. -/
def setFlags (flags : List Flag) (items : List FlagItem) : List Flag :=
  let named (items : List FlagItem) := items.filterMap (·.flag)
  let added := named (items.takeWhile (·.flag.isSome))
  let removed := named (items.dropWhile (·.flag.isSome))
  let flags := added.foldl (fun flags f => if flags.contains f then flags else f :: flags) flags
  flags.filter fun f => !removed.contains f

/-! ### Classes -/

/-- A way to combine two sets of characters. -/
inductive SetOperation
  | intersection
  | difference
  | symmetricDifference
  deriving DecidableEq

/-- What stands between brackets. -/
inductive Members
  | nothing (place : Stretch)
  | literal (l : Literal)
  | range (place : Stretch) (first last : Literal)
  | ascii (place : Stretch) (chars : CharSet) (negated : Bool)
  | kind (place : Stretch) (kind : CharKind) (negated : Bool)
  | property (place : Stretch) (query : PropertyQuery) (negated : Bool)
  | brackets (place : Stretch) (negated : Bool) (content : Members)
  | list (place : Stretch) (items : List Members)
  | combined (place : Stretch) (operation : SetOperation) (left right : Members)

/-- Where members of a class stand. -/
def Members.place : Members → Stretch
  | .literal l => l.place
  | .nothing place | .range place _ _ | .ascii place _ _ | .kind place _ _ | .property place _ _
  | .brackets place _ _ | .list place _ | .combined place _ _ _ => place

/-! ### Patterns -/

/-- What a group is for: to mark a part by a number, or to read it with some flags. -/
inductive GroupKind
  | capture (index : Nat)
  | flags (items : List FlagItem)
  deriving DecidableEq

/-- A pattern as it is written. -/
inductive Tree
  | empty (place : Stretch)
  | flags (place : Stretch) (items : List FlagItem)
  | atom (a : Atom)
  | brackets (place : Stretch) (negated : Bool) (content : Members)
  | repetition (place : Stretch) (least : Nat) (most : Option Nat) (greedy : Bool) (part : Tree)
  | group (place : Stretch) (kind : GroupKind) (part : Tree)
  | sequence (place : Stretch) (parts : List Tree)
  | choice (place : Stretch) (parts : List Tree)

/-- Where a part of a pattern stands. -/
def Tree.place : Tree → Stretch
  | .atom a => a.place
  | .empty place | .flags place _ | .brackets place _ _ | .repetition place _ _ _ _
  | .group place _ _ | .sequence place _ | .choice place _ => place

/-! ### Depth -/

/-- How deep the parts of a pattern may be nested. -/
def maxDepth : Nat := 250

mutual

/-- The first member of a class, in the order of their openings, that is nested too deep, if so
    many parts are already around the class. -/
def Members.tooDeep? (depth : Nat) : Members → Option Stretch
  | .brackets place _ content =>
    if maxDepth ≤ depth then some place else content.tooDeep? (depth + 1)
  | .list place items =>
    if maxDepth ≤ depth then some place else Members.firstTooDeep? (depth + 1) items
  | .combined place _ left right =>
    if maxDepth ≤ depth then some place
    else
      match left.tooDeep? (depth + 1) with
      | some place => some place
      | none => right.tooDeep? (depth + 1)
  | _ => none

/-- The first one that is nested too deep among several members. -/
def Members.firstTooDeep? (depth : Nat) : List Members → Option Stretch
  | [] => none
  | m :: rest =>
    match m.tooDeep? depth with
    | some place => some place
    | none => Members.firstTooDeep? depth rest

end

mutual

/-- The first part, in the order of their openings, that is nested too deep, if so many parts are
    already around the pattern. -/
def Tree.tooDeep? (depth : Nat) : Tree → Option Stretch
  | .brackets place _ content =>
    if maxDepth ≤ depth then some place else content.tooDeep? (depth + 1)
  | .repetition place _ _ _ part | .group place _ part =>
    if maxDepth ≤ depth then some place else part.tooDeep? (depth + 1)
  | .sequence place parts | .choice place parts =>
    if maxDepth ≤ depth then some place else Tree.firstTooDeep? (depth + 1) parts
  | _ => none

/-- The first one that is nested too deep among several parts. -/
def Tree.firstTooDeep? (depth : Nat) : List Tree → Option Stretch
  | [] => none
  | t :: rest =>
    match t.tooDeep? depth with
    | some place => some place
    | none => Tree.firstTooDeep? depth rest

end

end Pattern

end TextRules
