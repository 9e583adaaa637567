/-!
# JSON documents, whole or cut

A policy is decoded while it is read, so the fault that is reported is the first one in the
document, whether the text stops being JSON there or the data stop being a policy there. To let a
decoder work on a tree and still find that first fault, the reader hands over **everything up to the
place where the text breaks**: the containers that are open there are marked as not closed, and a
value that was due but could not be read is `cut`. A decoder that walks the tree in document order
and refuses a `cut` value, and a container that is not closed once it has dealt with what the
container holds, reports faults in the order of the text.

Members of an object are kept as written, in order and with repetitions, because what a repeated
member means depends on who reads it.
-/

set_option autoImplicit false

namespace AccessControl

/-- A number that is not written as a plain integer, kept as its digits: one with a fraction or an
exponent, or a zero with a minus sign. -/
structure Decimal where
  /-- Whether a minus sign stands in front. -/
  negative : Bool
  /-- The digits before the point. -/
  whole : List Nat
  /-- The digits after the point. -/
  fraction : List Nat
  /-- The exponent: whether it has a minus sign, and its digits. -/
  exponent : Option (Bool × List Nat)
deriving DecidableEq, Repr, Inhabited

/-- The key of a member: a string literal. -/
structure Key where
  /-- The text; `none` for a literal whose surrogate escapes are not paired, which has no text. -/
  text : Option String
  /-- Whether the text stands between the quotes as it is, with no escape in it. -/
  plain : Bool
deriving DecidableEq, Repr, Inhabited

/-- A JSON value, or as much of one as could be read. -/
inductive Json where
  | null
  | bool (b : Bool)
  /-- A number written without a fraction and an exponent. -/
  | integer (i : Int)
  /-- Any other number. -/
  | decimal (d : Decimal)
  /-- A string; `none` for a literal that has no text. -/
  | string (text : Option String)
  | array (items : List Json) (closed : Bool)
  | object (members : List (Key × Json)) (closed : Bool)
  /-- The text broke where a value was due. -/
  | cut
deriving Repr, Inhabited

/-- Whether a character cannot stand in a string literal as it is. -/
def needsEscape (c : Char) : Bool := c == '"' || c == '\\' || c.toNat < 0x20

/-- The key with a given text, which is plain if it can be. -/
def Key.ofText (s : String) : Key := { text := some s, plain := !s.toList.any needsEscape }

namespace Json

/-- The string of a text. -/
def text (s : String) : Json := .string (some s)

/-- A closed array. -/
def list (items : List Json) : Json := .array items true

/-- A closed object with the given members. -/
def record (members : List (String × Json)) : Json :=
  .object (members.map fun (key, value) => (Key.ofText key, value)) true

/-- The value, or null. -/
def ofOption {α : Type} (f : α → Json) : Option α → Json
  | none => .null
  | some a => f a

end Json

end AccessControl
