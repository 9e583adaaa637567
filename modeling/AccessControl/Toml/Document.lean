import AccessControl.Toml.Moment
import AccessControl.Toml.Node
import AccessControl.Toml.Text

/-!
# Reading TOML

`Toml.read` reads a document as a table, or finds that it is none: because the text is not
well formed, or because it gives a key twice or extends what cannot be extended. Nesting is bounded,
both that of arrays and tables in a line and that of dotted keys.
-/

set_option autoImplicit false

namespace AccessControl.Toml

/-! ## Keys -/

/-- The number of levels that neither nested values nor the parts of a key may reach. -/
def nestingLimit : Nat := 80

/-- Whether a character may stand in a key without quotes. -/
def isBareKeyChar (c : Char) : Bool := c.isAlphanum || c == '-' || c == '_'

/-- One part of a key. -/
def keyPart : Scan String :=
  basicText <|> literalText <|> do
    let first ← Scan.next isBareKeyChar
    return String.ofList (first :: (← Scan.takeWhile isBareKeyChar))

/-- A key: the parts before the last, and the last. -/
def key : Scan (List String × String) := do
  let parts ← Scan.separated1
    (do
      blanks
      let part ← keyPart
      blanks
      return part)
    (Scan.char '.')
  Scan.guard (parts.length < nestingLimit)
  match parts.getLast? with
  | some last => return (parts.dropLast, last)
  | none => failure

/-! ## Values -/

/-- The items of an array, with blanks, line ends and comments anywhere, and a comma after the last
one or not. -/
def arrayItems (item : Scan Node) : Scan (List Node) := do
  Scan.char '['
  let items ← Scan.separated
    (do
      spacing
      let i ← item
      spacing
      return i)
    (Scan.char ',')
  unless items.isEmpty do
    discard (Scan.optional (Scan.char ','))
  spacing
  Scan.char ']'
  return items

/-- The members of a table that is written in one line. -/
def inlineMembers (item : Scan Node) : Scan Members := do
  Scan.char '\x7b'
  let pairs ← Scan.separated
    (do
      let (path, last) ← key
      Scan.char '='
      blanks
      let i ← item
      blanks
      return (path, last, i))
    (Scan.char ',')
  blanks
  Scan.char '\x7d'
  let added : Option Members :=
    pairs.foldlM (fun ms (path, last, i) => ms.addDotted? path last i) []
  match added with
  | some ms => return ms
  | none => failure

/-- A value inside which so many more levels of arrays and tables may be nested. -/
def value (levels : Nat) : Scan Node := do
  match ← Scan.peek with
  | some '"' | some '\'' => return .text (← text)
  | some '[' =>
    match levels with
    | 0 => failure
    | levels + 1 => return .array (← arrayItems (value levels))
  | some '\x7b' =>
    match levels with
    | 0 => failure
    | levels + 1 => return .inline (← inlineMembers (value levels))
  | some 't' => do Scan.word ['t', 'r', 'u', 'e']; return .bool true
  | some 'f' => do Scan.word ['f', 'a', 'l', 's', 'e']; return .bool false
  | _ =>
    (do moment; return .moment) <|> (do float; return .float) <|> (do return .integer (← integer))

/-! ## Documents -/

/-- A document as far as it has been read: its tables, and the path to the one that is open. -/
structure Draft where
  root : Members := []
  place : List String := []

namespace Draft

/-- Opens what a header names. -/
def openAt (d : Draft) (path : List String) (last : String)
    (how : String → Members → Option Members) : Scan Draft :=
  match d.root.changeAt path (how last) with
  | some root => return { root, place := path ++ [last] }
  | none => failure

/-- A header. -/
def header (d : Draft) : Scan Draft := do
  Scan.char '['
  match ← Scan.optional (Scan.char '[') with
  | some () =>
    let (path, last) ← key
    Scan.word [']', ']']
    lineRest
    d.openAt path last Members.openElement
  | none =>
    let (path, last) ← key
    Scan.char ']'
    lineRest
    d.openAt path last Members.openTable

/-- A key and its value, added to the open table. -/
def pair (d : Draft) : Scan Draft := do
  let (path, last) ← key
  Scan.char '='
  blanks
  let v ← value (nestingLimit - 1)
  lineRest
  match d.root.changeAt d.place (Members.addDotted? path last v) with
  | some root => return { d with root }
  | none => failure

/-- A line with something in it or not. -/
def line (d : Draft) : Scan Draft := do
  match ← Scan.peek with
  | some '#' =>
    comment
    lineEnd
    return d
  | some '[' => d.header
  | some '\n' | some '\r' =>
    newLine
    return d
  | _ => d.pair

/-- The lines that are left; there are no more of them than `bound`. -/
def lines (d : Draft) : Nat → Scan Draft
  | 0 => failure
  | bound + 1 => do
    blanks
    match ← Scan.peek with
    | none => return d
    | some _ => (← d.line).lines bound

end Draft

/-- Reads a document. A byte order mark may stand in front. -/
def read (document : String) : Option Members :=
  let cs := match document.toList with
    | '\uFEFF' :: rest => rest
    | cs => cs
  (Draft.lines {} (cs.length + 1) cs).map fun (d, _) => d.root

end AccessControl.Toml
