import QueryShape.CommandLine.Answer

/-!
# The command

Reads and writes the files that the arguments name and prints the outcome.
-/

open QueryShape

/-- The text of a file, if it can be read. -/
def readText (path : String) : IO (Option String) := do
  try
    return some (← IO.FS.readFile path)
  catch _ =>
    return none

def finish (outcome : Outcome) : IO UInt32 := do
  IO.print outcome.output
  return outcome.exitCode.toUInt32

def main (arguments : List String) : IO UInt32 := do
  match Arguments.read? arguments with
  | none => finish .misused
  | some .help => finish ⟨0, CommandLine.helpText⟩
  | some .version => finish ⟨0, CommandLine.versionText⟩
  | some (.writeConfig path) =>
    try
      IO.FS.writeFile path Config.defaultFile
      finish ⟨0, ""⟩
    catch _ =>
      finish .failed
  | some (.answer lookup) =>
    finish (lookup.outcome (← readText lookup.config) (← readText lookup.data))
