import SqlTables.Command.Run

/-!
# The command line

Reads the files that a command names and the input, runs the command, and writes its outcome.
-/

namespace SqlTables.Command

def reasonOf : IO.Error → String
  | .noFileOrDirectory _ code _ => s!"No such file or directory (os error {code})"
  | .permissionDenied _ code _ => s!"Permission denied (os error {code})"
  | .inappropriateType _ code _ => s!"Is a directory (os error {code})"
  | error => toString error

def readPath (path : String) : IO (String × Except String String) := do
  try
    return (path, .ok (← IO.FS.readFile path))
  catch error =>
    return (path, .error (reasonOf error))

def runHere (command : Command) : IO Outcome := do
  let files ← command.action.paths.mapM readPath
  let input ← if command.action.readsInput then (← IO.getStdin).readToEnd else pure ""
  let file path :=
    match files.find? fun entry => entry.1 == path with
    | some entry => entry.2
    | none => .error "not read"
  return command.run ⟨file, input⟩

end SqlTables.Command

open SqlTables.Command in
def main (arguments : List String) : IO UInt32 := do
  let outcome ←
    match ofArguments arguments with
    | .ok command => runHere command
    | .error stop => pure stop.outcome
  IO.print outcome.output
  IO.eprint outcome.complaint
  return outcome.code
