import TextRules.Evaluation
import TextRules.Json.Writer
import TextRules.Stored.Reading

namespace TextRules

/-!
# Stored settings and statistics

The only setting is the policy for texts without numbers.
-/

namespace Stored

open Json (Draft)

/-- The name of a policy. -/
def policyName : EmptyPolicy → String
  | .zero => "zero"
  | .reject => "reject"

/-- The policy with a given name. -/
def policyOfName (name : String) : Except ReadError EmptyPolicy :=
  match name with
  | "zero" => .ok .zero
  | "reject" => .ok .reject
  | _ => .error (.unknownPolicy name)

/-- Reads a policy: its name, or an object that has nothing under its name. -/
def readPolicy : Draft → Except ReadError EmptyPolicy
  | .str (some name) => policyOfName name
  | .obj ((some name, value) :: rest) => do
    let policy ← policyOfName name
    match value, rest with
    | .null, [] => .ok policy
    | _, _ => .error .malformed
  | _ => .error .malformed

/-- Writes the settings of a checker. -/
def writeSettings (policy : EmptyPolicy) : Json :=
  .obj [("empty_aggregates", .str (policyName policy))]

/-- Reads the settings of a checker: an object, or its content as an array.  What is absent has its
    default. -/
def readSettings : Draft → Except ReadError EmptyPolicy
  | .obj members => do
    let found ← readMembers
      (fun found name value =>
        match name with
        | "empty_aggregates" => readOnce name readPolicy found value
        | _ => skip found value)
      none members
    return found.getD .zero
  | .arr [] => .ok .zero
  | .arr (item :: rest) => do
    let policy ← readPolicy item
    if rest.isEmpty then .ok policy else .error .malformed
  | _ => .error .malformed

/-- Writes the statistics of the numbers in a text. -/
def writeStats (s : NumberStats) : Json :=
  .obj [("sum", .int s.total.toInt), ("numbers", .int s.count)]

end Stored

end TextRules
