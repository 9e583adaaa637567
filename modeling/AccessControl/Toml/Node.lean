/-!
# TOML documents as trees

A document is a table. Tables come about in several ways, and the way matters while the document is
read, because it decides whether the table may still be extended: a table that has a header of its
own cannot be extended by dotted keys, one that came about by dotted keys cannot get a header, and
one that is only named on the way to others can still do either.

What is kept of a number or a moment is only that it is one, except for integers.
-/

set_option autoImplicit false

namespace AccessControl.Toml

/-- How a table came about. -/
inductive Origin where
  /-- By a header of its own. -/
  | header
  /-- By the header of a table inside it. -/
  | path
  /-- By a dotted key. -/
  | dotted
deriving DecidableEq, Repr

/-- A value in a document. -/
inductive Node where
  | text (s : String)
  | bool (b : Bool)
  | integer (i : Int)
  | float
  | moment
  /-- An array that is written out. -/
  | array (items : List Node)
  /-- A table that is written in one line, which nothing extends. -/
  | inline (members : List (String × Node))
  | table (origin : Origin) (members : List (String × Node))
  /-- Tables under the same header, each in doubled brackets. -/
  | tables (elements : List (List (String × Node)))
deriving Repr, Inhabited

/-- The members of a table, in the order in which they were added. -/
abbrev Members := List (String × Node)

namespace Members

/-- The value of a key. -/
def get? (ms : Members) (key : String) : Option Node := (ms.find? (·.1 == key)).map Prod.snd

/-- Gives a key a value. -/
def set (ms : Members) (key : String) (value : Node) : Members :=
  if ms.any (·.1 == key) then ms.map fun (k, v) => (k, if k == key then value else v)
  else ms ++ [(key, value)]

/-- Adds a key that is not there yet. -/
def add? (ms : Members) (key : String) (value : Node) : Option Members :=
  match ms.get? key with
  | some _ => none
  | none => some (ms ++ [(key, value)])

/-- Changes the last of some tables. -/
def changeLast (change : Members → Option Members) : List Members → Option (List Members)
  | [] => none
  | [last] => do return [← change last]
  | first :: rest => do return first :: (← changeLast change rest)

/-- Changes the table that a path of headers leads to. Tables missing on the way are made. -/
def changeAt : List String → (Members → Option Members) → Members → Option Members
  | [], change, ms => change ms
  | step :: path, change, ms =>
    match ms.get? step with
    | none => do return ms.set step (.table .path (← changeAt path change []))
    | some (.table origin inner) => do
      return ms.set step (.table origin (← changeAt path change inner))
    | some (.tables elements) => do
      return ms.set step (.tables (← changeLast (changeAt path change) elements))
    | some _ => none

/-- Adds a value under a dotted key, given by the keys before the last and the last. The tables on
the way must have come about by dotted keys; only the last of them is looked at so closely, and the
others just must not have a header. -/
def addDotted? : List String → String → Node → Members → Option Members
  | [], key, value, ms => ms.add? key value
  | step :: path, key, value, ms =>
    match ms.get? step with
    | none => do return ms.set step (.table .dotted (← addDotted? path key value []))
    | some (.table origin inner) =>
      if origin = .header || (path.isEmpty && origin ≠ .dotted) then none
      else do return ms.set step (.table origin (← addDotted? path key value inner))
    | some (.tables elements) =>
      if path.isEmpty then none
      else do return ms.set step (.tables (← changeLast (addDotted? path key value) elements))
    | some _ => none

/-- Opens a table by its header. -/
def openTable (key : String) (ms : Members) : Option Members :=
  match ms.get? key with
  | none => some (ms.set key (.table .header []))
  | some (.table .path inner) => some (ms.set key (.table .header inner))
  | some _ => none

/-- Opens one more table under a header in doubled brackets. -/
def openElement (key : String) (ms : Members) : Option Members :=
  match ms.get? key with
  | none => some (ms.set key (.tables [[]]))
  | some (.tables elements) => some (ms.set key (.tables (elements ++ [[]])))
  | some _ => none

end Members

end AccessControl.Toml
