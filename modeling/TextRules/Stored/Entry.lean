import TextRules.Registry.RuleBook
import TextRules.Stored.Rule

namespace TextRules

/-!
# Stored entries

An entry is stored as one object: its id and its owner next to the three parts of its rule.  The
parts of the rule are taken up only when the object has ended, so what is wrong with the id or the
owner is told before what is wrong with the rule.
-/

namespace Stored

open Json (Draft)

/-- Writes an id. -/
def writeId (id : RuleId) : Json := .int id.toNat

/-- Reads an id: a natural number below 2 ^ 64. -/
def readId : Draft → Except ReadError RuleId
  | .num n =>
    match n.nat? with
    | some value => if value < UInt64.size then .ok (UInt64.ofNat value) else .error .malformed
    | none => .error .malformed
  | _ => .error .malformed

/-- Writes an entry. -/
def writeEntry (entry : Entry) : Json :=
  .obj ([("id", writeId entry.id), ("owner", .str entry.owner)] ++ ruleMembers entry.rule)

/-- The parts of an entry that have been read, and the members that are kept for later, the last
    first. -/
structure EntryParts where
  id : Option RuleId
  owner : Option String
  kept : List (Option String × Draft)

namespace EntryParts

/-- Nothing has been read. -/
def empty : EntryParts := ⟨none, none, []⟩

/-- How deep a value may be nested inside an entry. -/
def deepest : Nat := 126

/-- Reads one more member. -/
def put (parts : EntryParts) (name : String) (value : Draft) : Except ReadError EntryParts :=
  match name with
  | "id" => (readOnce name readId parts.id value).map ({ parts with id := · })
  | "owner" => (readOnce name readString parts.owner value).map ({ parts with owner := · })
  | _ =>
    if value.keepable deepest then .ok { parts with kept := (some name, value) :: parts.kept }
    else .error .malformed

/-- The entry, if all its parts have been read. -/
def entry (parts : EntryParts) : Except ReadError Entry := do
  let id ← require "id" parts.id
  let owner ← require "owner" parts.owner
  let rule ← (← readMembers RuleParts.put .empty parts.kept.reverse).rule
  return ⟨id, owner, rule⟩

end EntryParts

/-- Reads an entry. -/
def readEntry : Draft → Except ReadError Entry
  | .obj members => do
    let parts ← readMembers EntryParts.put .empty members
    parts.entry
  | _ => .error .malformed

end Stored

end TextRules
