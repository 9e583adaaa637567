import AccessControl.Json.Basic

/-!
# Writing JSON

Two layouts of the same tokens: `compact` puts nothing between them, and `pretty` gives every item
and member a line of its own, indented by two spaces for each container around it, a space after
each colon, and no line at all to an empty container.

In a string literal the quote, the backslash and the control characters below the space are escaped,
five of the latter by a letter and the others as `\u00xx`; every other character stands for itself.
A value that was cut is written as far as it was read.
-/

set_option autoImplicit false

namespace AccessControl.Json

/-- A hexadecimal digit, in lower case. -/
def hexDigit (n : Nat) : Char := Nat.digitChar n

/-- One character inside a string literal. -/
def escape (c : Char) : List Char :=
  match c with
  | '"' => ['\\', '"']
  | '\\' => ['\\', '\\']
  | '\x08' => ['\\', 'b']
  | '\x0c' => ['\\', 'f']
  | '\n' => ['\\', 'n']
  | '\r' => ['\\', 'r']
  | '\t' => ['\\', 't']
  | c =>
    if c.toNat < 0x20 then
      ['\\', 'u', '0', '0', hexDigit (c.toNat / 16), hexDigit (c.toNat % 16)]
    else [c]

/-- The literal of a text. One that has no text is written as a surrogate that stands alone. -/
def literal : Option String → List Char
  | some s => '"' :: s.toList.flatMap escape ++ ['"']
  | none => ['"', '\\', 'u', 'd', '8', '0', '0', '"']

/-- The characters of digits. -/
def digits (ds : List Nat) : List Char := ds.map Nat.digitChar

/-- A minus sign or nothing. -/
def sign (negative : Bool) : List Char := if negative then ['-'] else []

/-- A number as it was written. -/
def decimalChars (d : Decimal) : List Char :=
  sign d.negative ++ digits d.whole
    ++ (if d.fraction = [] then [] else '.' :: digits d.fraction)
    ++ match d.exponent with
      | none => []
      | some (negative, ds) => 'e' :: sign negative ++ digits ds

/-- The digits of an integer. -/
def integerChars (i : Int) : List Char :=
  sign (decide (i < 0)) ++ Nat.toDigits 10 i.natAbs

/-- A value that holds no others. -/
def scalarChars : Json → List Char
  | .null => ['n', 'u', 'l', 'l']
  | .bool true => ['t', 'r', 'u', 'e']
  | .bool false => ['f', 'a', 'l', 's', 'e']
  | .integer i => integerChars i
  | .decimal d => decimalChars d
  | .string s => literal s
  | .array _ _ | .object _ _ | .cut => []

/-- The closing bracket of a container that is closed. -/
def closing (closed : Bool) (bracket : Char) : List Char := if closed then [bracket] else []

/-! ## The compact layout -/

mutual

/-- A value with nothing between its tokens. -/
def compact : Json → List Char
  | .array items closed => '[' :: compactItems items ++ closing closed ']'
  | .object members closed => '\x7b' :: compactMembers members ++ closing closed '\x7d'
  | scalar => scalarChars scalar

/-- The items of an array. -/
def compactItems : List Json → List Char
  | [] => []
  | [item] => compact item
  | item :: rest => compact item ++ ',' :: compactItems rest

/-- The members of an object. -/
def compactMembers : List (Key × Json) → List Char
  | [] => []
  | [(key, value)] => literal key.text ++ ':' :: compact value
  | (key, value) :: rest => literal key.text ++ ':' :: compact value ++ ',' :: compactMembers rest

end

/-- The text of a value, with nothing between its tokens. -/
def print (j : Json) : String := String.ofList (compact j)

/-! ## The indented layout -/

/-- A line break and the indentation of a depth. -/
def newLine (depth : Nat) : List Char := '\n' :: List.replicate (2 * depth) ' '

mutual

/-- A value whose first token stands in a line indented to a depth. -/
def pretty (depth : Nat) : Json → List Char
  | .array [] closed => '[' :: closing closed ']'
  | .array items closed =>
    '[' :: prettyItems (depth + 1) items ++ newLine depth ++ closing closed ']'
  | .object [] closed => '\x7b' :: closing closed '\x7d'
  | .object members closed =>
    '\x7b' :: prettyMembers (depth + 1) members ++ newLine depth ++ closing closed '\x7d'
  | scalar => scalarChars scalar

/-- The items of an array, each in a line of its own. -/
def prettyItems (depth : Nat) : List Json → List Char
  | [] => []
  | [item] => newLine depth ++ pretty depth item
  | item :: rest => newLine depth ++ pretty depth item ++ ',' :: prettyItems depth rest

/-- The members of an object, each in a line of its own. -/
def prettyMembers (depth : Nat) : List (Key × Json) → List Char
  | [] => []
  | [(key, value)] => newLine depth ++ literal key.text ++ [':', ' '] ++ pretty depth value
  | (key, value) :: rest =>
    newLine depth ++ literal key.text ++ [':', ' '] ++ pretty depth value
      ++ ',' :: prettyMembers depth rest

end

/-- The text of a value, one item or member in each line. -/
def printPretty (j : Json) : String := String.ofList (pretty 0 j)

end AccessControl.Json
