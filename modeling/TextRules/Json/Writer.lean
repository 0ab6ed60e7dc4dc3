import TextRules.Text.Decimal

namespace TextRules

/-!
# Writing JSON

The values that the library writes as JSON, and the one writer for them.  A layout says where a
line is broken and what stands between a name and its value; the compact layout has no blank
characters at all, the indented one shows the nesting.
-/

/-- A JSON value to be written. -/
inductive Json
  | bool (b : Bool)
  | int (n : Int)
  | str (s : String)
  | arr (items : List Json)
  | obj (members : List (String × Json))

namespace Json

/-- A character inside a JSON string: quotes, backslashes and controls are escaped, nothing else. -/
def escape (c : Char) : List Char :=
  if c = '"' ∨ c = '\\' then ['\\', c]
  else if c = '\x08' then ['\\', 'b']
  else if c = '\t' then ['\\', 't']
  else if c = '\n' then ['\\', 'n']
  else if c = '\x0c' then ['\\', 'f']
  else if c = '\r' then ['\\', 'r']
  else if c < ' ' then
    ['\\', 'u', '0', '0', Nat.digitChar (c.toNat / 16), Nat.digitChar (c.toNat % 16)]
  else [c]

/-- A JSON string. -/
def quote (s : String) : List Char := '"' :: s.toList.flatMap escape ++ ['"']

/-- An integer in JSON. -/
def integer : Int → List Char
  | .ofNat n => decimal n
  | .negSucc n => '-' :: decimal (n + 1)

/-- Where blanks go: the line break at a depth of nesting, and the mark after a name. -/
structure Layout where
  lineBreak : Nat → List Char
  colon : List Char

/-- No blanks. -/
def Layout.compact : Layout := ⟨fun _ => [], [':']⟩

/-- Each item on a line of its own, two blanks deeper than what it belongs to. -/
def Layout.indented : Layout := ⟨fun depth => '\n' :: List.replicate (2 * depth) ' ', [':', ' ']⟩

mutual

/-- A value at a depth of nesting. -/
def write (layout : Layout) (depth : Nat) : Json → List Char
  | .bool true => ['t', 'r', 'u', 'e']
  | .bool false => ['f', 'a', 'l', 's', 'e']
  | .int n => integer n
  | .str s => quote s
  | .arr [] => ['[', ']']
  | .arr (item :: rest) =>
    '[' :: layout.lineBreak (depth + 1) ++ write layout (depth + 1) item ++
      writeItems layout (depth + 1) rest ++ layout.lineBreak depth ++ [']']
  | .obj [] => ['\x7b', '\x7d']
  | .obj ((name, value) :: rest) =>
    '\x7b' :: layout.lineBreak (depth + 1) ++ quote name ++ layout.colon ++
      write layout (depth + 1) value ++ writeMembers layout (depth + 1) rest ++
      layout.lineBreak depth ++ ['\x7d']

/-- The items of an array after the first. -/
def writeItems (layout : Layout) (depth : Nat) : List Json → List Char
  | [] => []
  | item :: rest =>
    ',' :: layout.lineBreak depth ++ write layout depth item ++ writeItems layout depth rest

/-- The members of an object after the first. -/
def writeMembers (layout : Layout) (depth : Nat) : List (String × Json) → List Char
  | [] => []
  | (name, value) :: rest =>
    ',' :: layout.lineBreak depth ++ quote name ++ layout.colon ++ write layout depth value ++
      writeMembers layout depth rest

end

/-- The text of a value without blanks. -/
def compact (j : Json) : String := String.ofList (j.write Layout.compact 0)

/-- The text of a value with its nesting shown. -/
def indented (j : Json) : String := String.ofList (j.write Layout.indented 0)

example : compact (.arr [.str "a\"b", .int (-3), .bool true]) = "[\"a\\\"b\",-3,true]" := by
  decide +kernel

end Json

end TextRules
