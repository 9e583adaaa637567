import AccessControl.CommandLine.Run

/-!
# The program

The outermost layer: files and variables come from the system, output goes to it.
-/

set_option autoImplicit false

namespace AccessControl.CommandLine

/-- The system's number for an error, which some functions hand over with a minus sign. -/
def systemNumber (code : UInt32) : UInt32 := min code (0 - code)

/-- Why the system did not let a file be read. -/
def ReadFault.ofError (e : IO.Error) : ReadFault :=
  match e with
  | .noFileOrDirectory .. => .notFound
  | .permissionDenied .. => .other "Permission denied (os error 13)"
  | .inappropriateType _ code _ | .invalidArgument _ code _ =>
    match systemNumber code with
    | 20 => .notDirectory
    | 21 => .isDirectory
    | 36 => .nameTooLong
    | _ => .other (toString e)
  | e => .other (toString e)

/-- The real system. -/
def system : Host IO where
  read path := do
    if path.contains '\x00' then return .error .nullInPath
    try
      match String.fromUTF8? (← IO.FS.readBinFile path) with
      | some text => return .ok text
      | none => return .error .notText
    catch e => return .error (.ofError e)
  isPresent path := do
    try
      discard (IO.FS.realPath path)
      return true
    catch _ => return false
  lookup name := IO.getEnv name

/-- Prints the messages of a trouble. -/
def printMessages : List String → IO Unit
  | [] => pure ()
  | outermost :: causes => do
    IO.eprintln ("Error: " ++ outermost)
    for cause in causes do
      IO.eprintln ("  caused by: " ++ cause)

end AccessControl.CommandLine

open AccessControl.CommandLine in
/-- Runs the program on the system it is started on. -/
def main (args : List String) : IO UInt32 := do
  let ending ← run system args
  IO.print ending.output
  printMessages ending.messages
  return ending.code.toUInt32
