import TextRules.Json.Lexeme

namespace TextRules

/-!
# Reading JSON

A document is read as far as it is well-formed.  The draft that comes out holds everything up to
the first fault, and marks the place of the fault as broken.  Whoever takes the draft apart from
left to right therefore meets every earlier fault of the content before the fault of the form.
-/

namespace Json

/-- A JSON value as far as it can be read. -/
inductive Draft
  | broken
  | null
  | bool (b : Bool)
  | num (n : Number)
  | str (content : Option String)
  | arr (items : List Draft)
  | obj (members : List (Option String × Draft))

namespace Draft

mutual

/-- Whether a value is well-formed throughout. -/
def intact : Draft → Bool
  | .broken => false
  | .arr items => intactItems items
  | .obj members => intactMembers members
  | _ => true

/-- Whether all items are well-formed. -/
def intactItems : List Draft → Bool
  | [] => true
  | item :: rest => item.intact && intactItems rest

/-- Whether all members are well-formed. -/
def intactMembers : List (Option String × Draft) → Bool
  | [] => true
  | (_, value) :: rest => value.intact && intactMembers rest

end

mutual

/-- Whether a value can be kept: it is well-formed, all its strings have a content, all its numbers
    are finite, and it is nested at most `depth` levels deep. -/
def keepable (depth : Nat) : Draft → Bool
  | .broken => false
  | .null => true
  | .bool _ => true
  | .num n => n.isFinite
  | .str content => content.isSome
  | .arr items =>
    match depth with
    | 0 => false
    | deeper + 1 => keepableItems deeper items
  | .obj members =>
    match depth with
    | 0 => false
    | deeper + 1 => keepableMembers deeper members

/-- Whether all items can be kept. -/
def keepableItems (depth : Nat) : List Draft → Bool
  | [] => true
  | item :: rest => item.keepable depth && keepableItems depth rest

/-- Whether all members can be kept. -/
def keepableMembers (depth : Nat) : List (Option String × Draft) → Bool
  | [] => true
  | (name, value) :: rest =>
    name.isSome && value.keepable depth && keepableMembers depth rest

end

end Draft

/-! ### Reading lexeme by lexeme -/

/-- An array or an object around the place of reading, with what came before it, the last first. -/
inductive Frame
  | items (before : List Draft)
  | members (before : List (Option String × Draft)) (name : Option String)

/-- The value that a frame becomes when it ends after `last`. -/
def Frame.fill (last : Draft) : Frame → Draft
  | .items before => .arr (last :: before).reverse
  | .members before name => .obj ((name, last) :: before).reverse

/-- What may come next, inside the frames from the innermost outwards. -/
inductive Place
  | nextValue (frames : List Frame)
  | firstItem (frames : List Frame)
  | firstName (frames : List Frame)
  | nextName (frames : List Frame) (before : List (Option String × Draft))
  | nextColon (frames : List Frame) (before : List (Option String × Draft)) (name : Option String)
  | after (frames : List Frame) (value : Draft)
  | stuck (root : Draft)

/-- The frames around `last`, all ended there. -/
def fillAll (frames : List Frame) (last : Draft) : Draft := frames.foldl (fun v f => f.fill v) last

namespace Place

/-- Everything that has been read, if nothing can be read at this place. -/
def root : Place → Draft
  | .nextValue frames => fillAll frames .broken
  | .firstItem frames => fillAll frames (.arr [.broken])
  | .firstName frames => fillAll frames (.obj [(none, .broken)])
  | .nextName frames before => fillAll frames (.obj ((none, .broken) :: before).reverse)
  | .nextColon frames before name => fillAll frames (.obj ((name, .broken) :: before).reverse)
  | .after [] value => value
  | .after (.items before :: frames) value =>
    fillAll frames (.arr (.broken :: value :: before).reverse)
  | .after (.members before name :: frames) value =>
    fillAll frames (.obj ((none, .broken) :: (name, value) :: before).reverse)
  | .stuck root => root

/-- Goes on with a lexeme where a value has to come. -/
def startValue (frames : List Frame) : Lexeme → Place
  | .null => .after frames .null
  | .bool b => .after frames (.bool b)
  | .num n => .after frames (.num n)
  | .str content => .after frames (.str content)
  | .mark '[' => .firstItem frames
  | .mark '\x7b' => .firstName frames
  | _ => .stuck (fillAll frames .broken)

/-- Goes on with a lexeme. -/
def step (p : Place) (l : Lexeme) : Place :=
  match p, l with
  | .nextValue frames, l => startValue frames l
  | .firstItem frames, .mark ']' => .after frames (.arr [])
  | .firstItem frames, l => startValue (.items [] :: frames) l
  | .firstName frames, .mark '\x7d' => .after frames (.obj [])
  | .firstName frames, .str name => .nextColon frames [] name
  | .nextName frames before, .str name => .nextColon frames before name
  | .nextColon frames before name, .mark ':' => .nextValue (.members before name :: frames)
  | .after (.items before :: frames) value, .mark ',' =>
    .nextValue (.items (value :: before) :: frames)
  | .after (.items before :: frames) value, .mark ']' =>
    .after frames ((Frame.items before).fill value)
  | .after (.members before name :: frames) value, .mark ',' =>
    .nextName frames ((name, value) :: before)
  | .after (.members before name :: frames) value, .mark '\x7d' =>
    .after frames ((Frame.members before name).fill value)
  | p, _ => .stuck p.root

end Place

/-- A document: the value it starts with, and whether nothing follows it. -/
structure Document where
  root : Draft
  ended : Bool

/-- The document that a text holds. -/
def Document.ofText (text : String) : Document :=
  match (lexemes text.toList).foldl Place.step (.nextValue []) with
  | .after [] value => ⟨value, true⟩
  | p => ⟨p.root, false⟩

end Json

end TextRules
