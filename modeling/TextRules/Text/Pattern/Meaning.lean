import TextRules.Text.Pattern.Reader

namespace TextRules

/-!
# Meaning of patterns

A pattern as it is written becomes one that can be looked for.  The flags decide how characters,
classes and conditions are meant.  Without the flag for Unicode, all sets are sets of ASCII
characters, since any other byte could break up a character.
-/

namespace Pattern

/-! ### Characters -/

/-- The flags at the beginning of a pattern. -/
def firstFlags : List Flag := [.unicode]

/-- The character that is meant.  Without Unicode, the number of a byte has to be in ASCII. -/
def Literal.meant (flags : List Flag) (l : Literal) : Except Flaw Char :=
  if !flags.contains .unicode && l.isByte && 0x7F < l.char.toNat then
    .error ⟨.invalidUtf8, [l.place]⟩
  else .ok l.char

/-- A set with the characters that differ from its own only by case, if case is ignored. -/
def foldCase (flags : List Flag) (chars : CharSet) : CharSet :=
  if !flags.contains .ignoreCase then chars
  else if flags.contains .unicode then chars.foldCase
  else chars.foldAsciiCase

/-- A character, or the set of all that differ from it only by case. -/
def ofChar (flags : List Flag) (c : Char) : Pattern :=
  let folded := foldCase flags (.single c.toNat)
  if folded = .single c.toNat then .literal [c] else ofSet (!flags.contains .unicode) folded

/-! ### Classes -/

/-- A set, or its complement.  Without Unicode, the set has to be in ASCII. -/
def negateIf (flags : List Flag) (place : Stretch) (negated : Bool) (chars : CharSet) :
    Except Flaw CharSet :=
  let chars := if negated then chars.complement else chars
  if flags.contains .unicode || chars.isAscii then .ok chars
  else .error ⟨.invalidUtf8, [place]⟩

/-- The word characters: alphabetic characters, marks, decimal digits, connectors and joiners. -/
def wordChars : CharSet :=
  .unions [BinaryProperty.alphabetic, GeneralCategory.mark, GeneralCategory.decimalNumber,
    GeneralCategory.connectorPunctuation, BinaryProperty.joinControl]

/-- The characters of a kind, in Unicode or in ASCII. -/
def CharKind.chars (unicode : Bool) : CharKind → CharSet
  | .digit => if unicode then GeneralCategory.decimalNumber else .ofText "30-39"
  | .space => if unicode then BinaryProperty.whiteSpace else .ofText "9-D 20"
  | .word => if unicode then wordChars else .ofText "30-39 41-5A 5F 61-7A"

/-- The characters of a kind, or all others. -/
def kindSet (flags : List Flag) (place : Stretch) (kind : CharKind) (negated : Bool) :
    Except Flaw CharSet :=
  negateIf flags place negated (kind.chars (flags.contains .unicode))

/-- The characters with a property, or all others. -/
def propertySet (flags : List Flag) (place : Stretch) (query : PropertyQuery) (negated : Bool) :
    Except Flaw CharSet :=
  if !flags.contains .unicode then .error ⟨.noUnicode, [place]⟩
  else
    match query.answer with
    | .ok chars => negateIf flags place negated (foldCase flags chars)
    | .error .unknownProperty => .error ⟨.unknownProperty, [place]⟩
    | .error .unknownValue => .error ⟨.unknownPropertyValue, [place]⟩

/-- The code point of a member of a class.  Without Unicode, it has to be in ASCII. -/
def memberCode (flags : List Flag) (l : Literal) : Except Flaw Nat := do
  let c ← l.meant flags
  if flags.contains .unicode || c.toNat ≤ 0x7F then return c.toNat
  else .error ⟨.noUnicode, [l.place]⟩

/-- Combines two sets. -/
def SetOperation.combine (operation : SetOperation) (s t : CharSet) : CharSet :=
  match operation with
  | .intersection => s.inter t
  | .difference => s.diff t
  | .symmetricDifference => s.symmDiff t

mutual

/-- The characters that are members of a class. -/
def Members.chars (flags : List Flag) : Members → Except Flaw CharSet
  | .nothing _ => .ok ⟨[]⟩
  | .literal l => (memberCode flags l).map .single
  | .range _ first last => do return ⟨[(← memberCode flags first, ← memberCode flags last)]⟩
  | .ascii place chars negated => negateIf flags place negated (foldCase flags chars)
  | .kind place k negated => kindSet flags place k negated
  | .property place query negated => propertySet flags place query negated
  | .brackets place negated content => do
    negateIf flags place negated (foldCase flags (← content.chars flags))
  | .list _ items => (Members.allRanges flags [] items).map .ofRanges
  | .combined _ operation left right => do
    let left ← left.chars flags
    let right ← right.chars flags
    return operation.combine (foldCase flags left) (foldCase flags right)

/-- The ranges of several members of a class, together with those of others. -/
def Members.allRanges (flags : List Flag) (found : List (Nat × Nat)) :
    List Members → Except Flaw (List (Nat × Nat))
  | [] => .ok found
  | m :: rest =>
    match m.chars flags with
    | .error flaw => .error flaw
    | .ok s => Members.allRanges flags (s.ranges ++ found) rest

end

/-! ### Parts that are not put together -/

/-- Any character, except for the ends of lines unless they are included. -/
def anyChar (flags : List Flag) : CharSet :=
  if flags.contains .dotAll then .ofText "0-10FFFF"
  else if flags.contains .crlf then .ofText "0-9 B-C E-10FFFF"
  else .ofText "0-9 B-10FFFF"

/-- The condition that is meant. -/
def Anchor.edge (flags : List Flag) : Anchor → Edge
  | .caret => if flags.contains .multiLine then .lineStart (flags.contains .crlf) else .textStart
  | .dollar => if flags.contains .multiLine then .lineEnd (flags.contains .crlf) else .textEnd
  | .textStart => .textStart
  | .textEnd => .textEnd
  | .word e => .word (!flags.contains .unicode) e

/-- What a part stands for that is not put together. -/
def Atom.pattern (flags : List Flag) : Atom → Except Flaw Pattern
  | .literal l => (l.meant flags).map (ofChar flags)
  | .any place =>
    if flags.contains .unicode then .ok (ofSet false (anyChar flags))
    else .error ⟨.invalidUtf8, [place]⟩
  | .anchor _ a => .ok (.edge (a.edge flags))
  | .kind place k negated =>
    (kindSet flags place k negated).map (ofSet (!flags.contains .unicode))
  | .property place query negated => (propertySet flags place query negated).map (ofSet false)

/-! ### Whole patterns -/

mutual

/-- What a pattern stands for, and the flags that are set behind it. -/
def Tree.pattern (flags : List Flag) : Tree → Except Flaw (Pattern × List Flag)
  | .empty _ => .ok (.empty, flags)
  | .flags _ items => .ok (.empty, setFlags flags items)
  | .atom a => (a.pattern flags).map (·, flags)
  | .brackets place negated content => do
    let chars ← negateIf flags place negated (foldCase flags (← content.chars flags))
    return (ofSet (!flags.contains .unicode) chars, flags)
  | .repetition _ least most greedy part => do
    let (p, flags) ← part.pattern flags
    return (times least most (greedy != flags.contains .swapGreed) p, flags)
  | .group _ (.capture index) part => do
    let (p, _) ← part.pattern flags
    return (.capture index p, flags)
  | .group _ (.flags items) part => do
    let (p, _) ← part.pattern (setFlags flags items)
    return (p, flags)
  | .sequence _ parts => do
    let (ps, flags) ← Tree.allPatterns flags [] parts
    return (inOrder ps, flags)
  | .choice _ parts => do
    let (ps, flags) ← Tree.allPatterns flags [] parts
    return (anyOf ps, flags)

/-- What the parts of a pattern stand for, behind those that are known, the last one first. -/
def Tree.allPatterns (flags : List Flag) (known : List Pattern) :
    List Tree → Except Flaw (List Pattern × List Flag)
  | [] => .ok (known.reverse, flags)
  | t :: rest =>
    match t.pattern flags with
    | .error flaw => .error flaw
    | .ok (p, flags) => Tree.allPatterns flags (p :: known) rest

end

end Pattern

end TextRules
