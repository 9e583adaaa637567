/-!
# Hosts

A command reads files and variables of the environment, and nothing else, from a `Host`. So the same
commands run on a real system and on files that are only given.
-/

set_option autoImplicit false

namespace AccessControl.CommandLine

/-- Why a file cannot be read. -/
inductive ReadFault where
  | notFound
  /-- A part of the path that should be a directory is none. -/
  | notDirectory
  | isDirectory
  /-- The path, or a name in it, is too long. -/
  | nameTooLong
  /-- There is a null character in the path. -/
  | nullInPath
  /-- What is there is no text in UTF-8. -/
  | notText
  /-- Any other cause, in the words of the system. -/
  | other (message : String)
deriving DecidableEq, Repr

/-- The wording of each fault. -/
def ReadFault.message : ReadFault → String
  | .notFound => "No such file or directory (os error 2)"
  | .notDirectory => "Not a directory (os error 20)"
  | .isDirectory => "Is a directory (os error 21)"
  | .nameTooLong => "File name too long (os error 36)"
  | .nullInPath => "file name contained an unexpected NUL byte"
  | .notText => "stream did not contain valid UTF-8"
  | .other message => message

/-- Where a command runs. -/
structure Host (m : Type → Type) where
  /-- The text of a file. -/
  read : String → m (Except ReadFault String)
  /-- Whether there is anything at a path. -/
  isPresent : String → m Bool
  /-- The value of a variable. -/
  lookup : String → m (Option String)

end AccessControl.CommandLine
