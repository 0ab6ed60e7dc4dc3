import TextRules.Json.Draft
import TextRules.Relation
import TextRules.Token

namespace TextRules

/-!
# Reading stored forms

The library keeps its data as JSON documents.  Members of an object may come in any order; each is
read where it stands, so the first fault in the text is the one that is told.
-/

/-- Why a document is refused. -/
inductive ReadError
  | malformed
  | invalidToken (word : String)
  | unknownRelation (sign : String)
  | missingField (name : String)
  | duplicateField (name : String)
  | unknownPolicy (name : String)
  deriving DecidableEq

/-- The wording of a read error.  A fault of the form has none. -/
def ReadError.message? : ReadError → Option String
  | .malformed => none
  | .invalidToken word => some (Token.invalidMessage word)
  | .unknownRelation sign => some (Relation.unknownMessage sign)
  | .missingField name => some s!"missing field `{name}`"
  | .duplicateField name => some s!"duplicate field `{name}`"
  | .unknownPolicy name => some s!"unknown variant `{name}`, expected `zero` or `reject`"

namespace Stored

open Json (Draft Document)

/-- Reads a whole text.  Nothing may follow the value. -/
def fromText {α : Type} (read : Draft → Except ReadError α) (text : String) :
    Except ReadError α := do
  let document := Document.ofText text
  let a ← read document.root
  if document.ended then .ok a else .error .malformed

/-- Reads a string. -/
def readString : Draft → Except ReadError String
  | .str (some s) => .ok s
  | _ => .error .malformed

/-- Reads a list. -/
def readList {α : Type} (read : Draft → Except ReadError α) : Draft → Except ReadError (List α)
  | .arr items => items.mapM read
  | _ => .error .malformed

/-- Reads the members of an object one after the other. -/
def readMembers {σ : Type} (put : σ → String → Draft → Except ReadError σ) (start : σ)
    (members : List (Option String × Draft)) : Except ReadError σ :=
  members.foldlM (fun s (name, value) =>
    match name with
    | none => .error .malformed
    | some name => put s name value) start

/-- Reads a field that may come once. -/
def readOnce {α : Type} (name : String) (read : Draft → Except ReadError α) (old : Option α)
    (value : Draft) : Except ReadError (Option α) :=
  match old with
  | some _ => .error (.duplicateField name)
  | none => (read value).map some

/-- Passes over a field that has no meaning. -/
def skip {σ : Type} (s : σ) (value : Draft) : Except ReadError σ :=
  if value.intact then .ok s else .error .malformed

/-- The content of a field that has to come. -/
def require {α : Type} (name : String) : Option α → Except ReadError α
  | some a => .ok a
  | none => .error (.missingField name)

end Stored

end TextRules
