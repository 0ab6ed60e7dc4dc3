import TextRules.Text.CharSet

namespace TextRules

/-!
# Names of properties

The names that the Unicode standard gives to properties and their values are compared loosely: in
any case, without spaces, underscores and hyphens, and without the word "is" in front.
-/

/-- A name without what does not count in a comparison. -/
def squeezed (name : List Char) : List Char :=
  (name.filter fun c => c != ' ' && c != '_' && c != '-' && c.toNat < 0x80).map Char.toLower

/-- The form in which names are compared.  "isc" is the name of a property of its own. -/
def looseName (name : List Char) : List Char :=
  match name with
  | i :: s :: rest =>
    if (i == 'i' || i == 'I') && (s == 's' || s == 'S') then
      if squeezed rest = ['c'] then ['i', 's', 'c'] else squeezed rest
    else squeezed name
  | _ => squeezed name

/-- Whether a name in loose form is one of several. -/
def isNamed (names : List String) (loose : List Char) : Bool :=
  names.any fun name => looseName name.toList == loose

/-- A set of characters and the names that it goes by. -/
structure NamedSet where
  names : List String
  chars : CharSet

/-- The set with a given name in loose form. -/
def NamedSet.find? (sets : List NamedSet) (loose : List Char) : Option CharSet :=
  (sets.find? fun s => isNamed s.names loose).map (·.chars)

example : looseName "Is_Lower-Case Letter".toList = "lowercaseletter".toList := by decide +kernel

end TextRules
