import TypedDocument.CommandLine.Run

/-!
# The command line

Runs one command on the files of the system.
-/

namespace TypedDocument.CommandLine

/-- What is printed when the arguments make no command. -/
def usage : String :=
  "Usage: document <COMMAND>\n\nCommands:\n" ++
  "  validate     Validate a JSON document against a schema\n" ++
  "  create       Create a document from the schema's defaults\n" ++
  "  convert      Convert a document between schema and wire keys\n" ++
  "  json-schema  Print the JSON Schema equivalent of a schema declaration\n" ++
  "  check        Check a JSON document against the JSON Schema export of a schema\n"

/-- The reason of a failed access to a file, with the number of the system's error where it is known. -/
def reason : IO.Error → String
  | .noFileOrDirectory .. => "No such file or directory (os error 2)"
  | .inappropriateType .. => "Is a directory (os error 21)"
  | .permissionDenied _ code _ => "Permission denied (os error " ++ toString code ++ ")"
  | e => toString e

/-- File access on the disk. -/
def disk : FileAccess IO where
  read path := do
    try return .ok (← IO.FS.readFile path)
    catch
      | .noFileOrDirectory .. => return .error (.fileNotFound path)
      | e => return .error (.unreadable path (reason e))
  write path content := do
    try
      IO.FS.writeFile path content
      return .ok ()
    catch e => return .error (reason e)

end TypedDocument.CommandLine

open TypedDocument.CommandLine in
def main (args : List String) : IO UInt32 := do
  match Command.ofArguments? args with
  | none =>
    IO.eprint usage
    return 2
  | some command =>
    let outcome ← command.run disk
    IO.print outcome.stdout
    IO.eprint outcome.stderr
    return outcome.exitCode.toUInt32
