import AccessControl.CommandLine.Host

/-!
# Files that are only given

A `Host` need not be a real system: this one consists of files with their texts, and of variables.
What a path leads to is found as on a real system, one name after another from the directory where
the path starts; so a path through something that is no directory leads nowhere, and neither does
one through a directory that is not there, even if it leaves it again.
-/

set_option autoImplicit false

namespace AccessControl.CommandLine

/-- Files, given by the names on the way to them from the root, and the names on the way to the
directory where relative paths start. There are no directories but that one and those that lead to
it or to a file. -/
structure Files where
  texts : List (List String × String)
  here : List String

namespace Files

/-- What there can be at a place. -/
inductive Entry where
  | file (text : String)
  | directory
deriving DecidableEq, Repr

/-- What there is at a place, which is given by the names on the way to it. -/
def entry? (files : Files) (place : List String) : Option Entry :=
  match files.texts.lookup place with
  | some text => some (.file text)
  | none =>
    if place.isPrefixOf files.here || files.texts.any fun (p, _) => place.isPrefixOf p then
      some .directory
    else none

/-- The longest name a file can have, in bytes. -/
def maxNameLength : Nat := 255

/-- The longest path that can be followed, in bytes. -/
def maxPathLength : Nat := 4095

/-- Follows one more name. No name at all stands for the directory itself, as a single dot does. -/
def follow (files : Files) (place : List String) (name : String) : Except ReadFault (List String) :=
  match files.entry? place with
  | none => .error .notFound
  | some (.file _) => .error .notDirectory
  | some .directory =>
    if name = "" ∨ name = "." then .ok place
    else if name = ".." then .ok place.dropLast
    else if maxNameLength < name.utf8ByteSize then .error .nameTooLong
    else if (files.entry? (place ++ [name])).isSome then .ok (place ++ [name])
    else .error .notFound

/-- What a path leads to. -/
def find (files : Files) (path : String) : Except ReadFault Entry := do
  if path.isEmpty then throw .notFound
  if path.contains '\x00' then throw .nullInPath
  if maxPathLength < path.utf8ByteSize then throw .nameTooLong
  let start := if path.startsWith "/" then [] else files.here
  let place ← (path.splitOn "/").foldlM files.follow start
  (files.entry? place).elim (throw .notFound) pure

/-- The text of a file. -/
def read (files : Files) (path : String) : Except ReadFault String := do
  match ← files.find path with
  | .file text => return text
  | .directory => throw .isDirectory

end Files

/-- A host that consists of files and of variables with their values. -/
def Host.ofFiles (files : Files) (values : List (String × String)) : Host Id where
  read path := files.read path
  isPresent path := (files.find path).isOk
  lookup name := values.lookup name

end AccessControl.CommandLine
