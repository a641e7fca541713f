import AppLinks.CommandLine.Run

/-!
# The command line program

Reads files, logs to standard error what a run logs and then prints what it says; what is to be
logged and said is decided elsewhere.
-/

namespace AppLinks

def usage : String :=
  "Usage: applinks [-v] match -i FILE -u URL... [--unique] [--json]\n" ++
  "       applinks [-v] check -i FILE\n" ++
  "       applinks [-v] locations -o ORIGIN\n"

def readFile (file : String) : IO (Except String (List UInt8)) := do
  try
    let bytes ← IO.FS.readBinFile file
    return .ok bytes.toList
  catch
    | .noFileOrDirectory .. => return .error "No such file or directory (os error 2)"
    | .noSuchThing .. => return .error "No such file or directory (os error 2)"
    | .inappropriateType .. => return .error "Is a directory (os error 21)"
    | .permissionDenied .. => return .error "Permission denied (os error 13)"
    | e => return .error (toString e)

/-- The file that a command reads. -/
def Command.file? : Command → Option String
  | .matchUrls file _ _ _ => some file
  | .check file => some file
  | .locations _ => none

end AppLinks

open AppLinks in
def main (args : List String) : IO UInt32 := do
  match Command.read args with
  | none =>
    IO.eprint usage
    return 2
  | some line =>
    let content ←
      match line.command.file? with
      | some file => readFile file
      | none => pure (.ok [])
    let r := line.command.run fun _ => content
    for entry in r.log line.verbose do
      IO.eprintln entry
    IO.print r.output
    IO.eprint r.errorOutput
    return r.exitCode.toUInt32
