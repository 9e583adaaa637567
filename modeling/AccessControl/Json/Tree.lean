import AccessControl.Json.Token

/-!
# From tokens to a tree

`Json.ofTokens` assembles a value from tokens. What is being assembled is a `Growth`: the containers
that wait for the value inside them, innermost first, and what the next token may be. Each token
changes it by one step or has no place in it, so the assembly is one pass over the tokens, however
deep the nesting. Where a token has no place, or the tokens end too early, the growth is cut: every
container still open is handed over as it is, marked as not closed.
-/

set_option autoImplicit false

namespace AccessControl.Json

/-- A container that waits for a value. What it holds already is kept last first. -/
inductive Frame where
  | array (items : List Json)
  | object (members : List (Key × Json)) (key : Key)

/-- What may come next in the innermost place. -/
inductive Awaiting where
  /-- A value. -/
  | value
  /-- A value or the end of an empty array. -/
  | firstItem
  /-- A comma or the end of an array. -/
  | afterItem (items : List Json)
  /-- A key or the end of an empty object. -/
  | firstKey
  /-- A key. -/
  | key (members : List (Key × Json))
  /-- The colon after a key. -/
  | colon (members : List (Key × Json)) (key : Key)
  /-- A comma or the end of an object. -/
  | afterMember (members : List (Key × Json))
  /-- Nothing: the value is complete. -/
  | nothing (tree : Json)

/-- A tree in the making. -/
structure Growth where
  parents : List Frame := []
  awaiting : Awaiting := .value

namespace Growth

/-- Puts a finished value into the container that waits for it. -/
def place (parents : List Frame) (value : Json) : Growth :=
  match parents with
  | [] => { parents := [], awaiting := .nothing value }
  | .array items :: outer => { parents := outer, awaiting := .afterItem (value :: items) }
  | .object members key :: outer =>
    { parents := outer, awaiting := .afterMember ((key, value) :: members) }

/-- Begins or finishes a value where one is due. -/
def receive (parents : List Frame) : Token → Option Growth
  | .openArray => some { parents, awaiting := .firstItem }
  | .openObject => some { parents, awaiting := .firstKey }
  | .null => some (place parents .null)
  | .bool b => some (place parents (.bool b))
  | .integer i => some (place parents (.integer i))
  | .decimal d => some (place parents (.decimal d))
  | .string s => some (place parents (.string s.text))
  | _ => none

/-- Takes one token, or finds that it has no place. -/
def step (g : Growth) (t : Token) : Option Growth :=
  match g.awaiting, t with
  | .value, t => receive g.parents t
  | .firstItem, .closeArray => some (place g.parents (.array [] true))
  | .firstItem, t => receive (.array [] :: g.parents) t
  | .afterItem items, .comma => some { parents := .array items :: g.parents, awaiting := .value }
  | .afterItem items, .closeArray => some (place g.parents (.array items.reverse true))
  | .firstKey, .closeObject => some (place g.parents (.object [] true))
  | .firstKey, .string key => some { g with awaiting := .colon [] key }
  | .key members, .string key => some { g with awaiting := .colon members key }
  | .colon members key, .colon =>
    some { parents := .object members key :: g.parents, awaiting := .value }
  | .afterMember members, .comma => some { g with awaiting := .key members }
  | .afterMember members, .closeObject => some (place g.parents (.object members.reverse true))
  | _, _ => none

/-- What has been read of the innermost place. -/
def Awaiting.cut : Awaiting → Json
  | .value => .cut
  | .firstItem => .array [] false
  | .afterItem items => .array items.reverse false
  | .firstKey => .object [] false
  | .key members | .afterMember members => .object members.reverse false
  | .colon members key => .object ((key, .cut) :: members).reverse false
  | .nothing tree => tree

/-- Hands a value out through the containers around it, none of which is closed. -/
def unwind : List Frame → Json → Json
  | [], value => value
  | .array items :: outer, value => unwind outer (.array (value :: items).reverse false)
  | .object members key :: outer, value =>
    unwind outer (.object ((key, value) :: members).reverse false)

/-- All that has been read. -/
def cut (g : Growth) : Json := unwind g.parents (Awaiting.cut g.awaiting)

/-- Whether the value is complete. -/
def isComplete (g : Growth) : Bool :=
  match g.awaiting with
  | .nothing _ => true
  | _ => false

end Growth

/-- What a text was read as. -/
structure Reading where
  /-- The value, cut where the text breaks. -/
  tree : Json
  /-- Whether the whole text is that value and nothing else. -/
  whole : Bool

/-- Assembles a value from the tokens that continue a growth. -/
def Growth.finish (g : Growth) : List Token → Reading
  | [] => { tree := g.cut, whole := g.isComplete }
  | t :: rest =>
    match g.step t with
    | some g => g.finish rest
    | none => { tree := g.cut, whole := false }

/-- Assembles a value from tokens. -/
def ofTokens (tokens : List Token) : Reading := Growth.finish {} tokens

/-- Reads a text. -/
def read (s : String) : Reading := ofTokens (Token.scan s.toList)

end AccessControl.Json
