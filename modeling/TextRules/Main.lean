import TextRules.CommandLine.Program

namespace TextRules

/-!
# The executable

Reads what the program needs and prints what it answers.
-/

/-- The bytes of a file. -/
def readBytes (path : String) : IO (Except InputError ByteArray) := do
  try
    return .ok (← IO.FS.readBinFile path)
  catch
    | .noFileOrDirectory .. => return .error .noSuchFile
    | e => return .error (.other e.toString)

/-- The bytes of the standard input, unless it is a terminal. -/
def readStdin : IO (Option (Except InputError ByteArray)) := do
  let stdin ← IO.getStdin
  if ← stdin.isTty then return none
  try
    return some (.ok (← stdin.readBinToEnd))
  catch e =>
    return some (.error (.other e.toString))

end TextRules

open TextRules in
/-- Reads what the arguments ask for, and prints what the program answers. -/
def main (args : List String) : IO UInt32 := do
  let environment : Environment :=
    ⟨← IO.getEnv "RULECHECK_EMPTY_AGGREGATES", ← IO.getEnv "RUST_LOG"⟩
  let mut stdin := none
  let mut file : Except InputError ByteArray := .error .noSuchFile
  if let .ok invocation := Arguments.read environment.policy args then
    if let .batch path _ := invocation.task then file ← readBytes path
    if Program.needsStdin invocation.task then stdin ← readStdin
  let rules := file
  let outcome := Program.run environment ⟨stdin, fun _ => rules⟩ args
  IO.print outcome.stdout
  IO.eprint outcome.stderr
  return UInt32.ofNat outcome.exitCode
