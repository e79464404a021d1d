import ScriptTree.Arguments
/-!
# The program

Reads the files that the command line names, runs the command, and prints what it left.
-/

namespace ScriptTree

/-- The text of a file, if it can be read. -/
def readFile? (path : String) : IO (Option String) := do
  try
    return some (← IO.FS.readFile path)
  catch _ =>
    return none

/-- Prints what a run left, and puts a tree into its file. -/
def finish (outcome : Command.Outcome) (out : Option String) : IO UInt32 := do
  match outcome.file, out with
  | some text, some path => IO.FS.writeFile path text
  | _, _ => pure ()
  IO.print outcome.output
  IO.eprint outcome.errors
  return if outcome.succeeded then 0 else 1

end ScriptTree

open ScriptTree in
/-- Runs the command that the words ask for. -/
def main (words : List String) : IO UInt32 := do
  match (Arguments.read? words).bind fun arguments =>
      arguments.command?.map fun command => (arguments, command) with
  | none =>
    IO.eprintln "usage: markup|validate|roundtrip|explain --input FILE, or catalog"
    return 2
  | some (arguments, command) =>
    let environment := Settings.ofEnvironment
      (← IO.getEnv "RADON_CACHE_ORIGIN") (← IO.getEnv "RADON_CATALOG")
    let settings := arguments.settings environment
    let catalogFile ← settings.catalogPath.bindM readFile?
    let source ← arguments.input.bindM readFile?
    finish (command.run settings catalogFile source arguments.out.isSome) arguments.out
