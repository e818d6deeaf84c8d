import Scriptlet.CommandLine.Standard

/-!
# The program

Reads the variable and the file that a run asks for and writes what the run has written.
Everything else is decided by `CommandLine.run`.
-/

namespace Scriptlet

namespace CommandLine

/-- How the system's refusal to give a file is reported. -/
def readErrorOf : IO.Error → ReadError
  | .noFileOrDirectory .. => .notFound
  | .inappropriateType .. => .isDirectory
  | .permissionDenied .. => .system 13 "PermissionDenied" "Permission denied"
  | error => .system 5 "Uncategorized" error.toString

def readFile (name : String) : IO (Except ReadError ByteArray) := do
  try
    return .ok (← IO.FS.readBinFile name)
  catch error =>
    return .error (readErrorOf error)

/-- What the files hold that a command line asks for. -/
def readRequested (arguments : List String) : IO FileReader := do
  match ArgumentParser.standard arguments with
  | .ok (_, ⟨some name, none, _, _, _⟩) =>
    let content ← readFile name
    return fun _ => content
  | _ => return fun _ => .error .notFound

/-- Runs a command line, writes its output and answers its exit code. -/
def perform (arguments : List String) : IO UInt32 := do
  let directives ← IO.getEnv logVariable
  let files ← readRequested arguments
  let outcome := run ⟨.standard, .standard, fun _ => directives, files⟩ arguments
  IO.print outcome.stdout
  IO.eprint outcome.stderr
  return outcome.exitCode.toUInt32

end CommandLine

end Scriptlet

def main (arguments : List String) : IO UInt32 := Scriptlet.CommandLine.perform arguments
