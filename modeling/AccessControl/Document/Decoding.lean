import AccessControl.Identifier
import AccessControl.Json.Tree
import AccessControl.Role
import Std.Data.ExtTreeMap

/-!
# Decoding documents

A decoder takes a JSON value for what it is meant to be, or refuses it. Only one thing is told about
a refusal: whether it was a role name that was at fault, and how. So it matters which fault comes
first, and every decoder deals with the parts of a value in the order in which they are written. The
text may have broken off inside the value; that is a fault of its own, which comes where the text
ends.

A *record* is written as an object, whose members come in any order and may be unknown, or as an
array of its fields in a fixed order.
-/

set_option autoImplicit false

namespace AccessControl

/-- Why a value is not what it is meant to be. -/
inductive Refusal where
  /-- It has the wrong shape, or the text breaks off inside it. -/
  | shape
  /-- A role name in it is no role. -/
  | role (fault : RoleFault)
deriving DecidableEq, Repr

/-- What a value is meant to be, and how to tell. -/
abbrev Decoder (α : Type) := Json → Except Refusal α

namespace Decoder

variable {α β κ ν δ : Type}

/-! ## Plain values -/

/-- A text. -/
def text : Decoder String
  | .string (some s) => .ok s
  | _ => .error .shape

/-- A truth value. -/
def bool : Decoder Bool
  | .bool b => .ok b
  | _ => .error .shape

/-- An unsigned 64-bit integer. -/
def word : Decoder UInt64
  | .integer i => if 0 ≤ i ∧ i < Text.wordLimit then .ok (UInt64.ofNat i.toNat) else .error .shape
  | _ => .error .shape

/-- An identifier. -/
def id {kind : Numbered} : Decoder (Identifier kind) := fun j => (word j).map Identifier.mk

/-- Nothing or a value. -/
def option (decode : Decoder α) : Decoder (Option α)
  | .null => .ok none
  | j => (decode j).map some

/-- One of some names: as a string, or as the only key of an object whose value is null. -/
def name (ofName? : String → Option α) : Decoder α
  | .string (some s) => (ofName? s).elim (.error .shape) .ok
  | .object [({ text := some s, .. }, .null)] true => (ofName? s).elim (.error .shape) .ok
  | _ => .error .shape

/-! ## Collections -/

/-- Refuses a container that breaks off, once its parts have been dealt with. -/
def closed (isClosed : Bool) (a : α) : Except Refusal α :=
  if isClosed then .ok a else .error .shape

/-- A list. -/
def list (decode : Decoder α) : Decoder (List α)
  | .array items isClosed => do closed isClosed (← items.mapM decode)
  | _ => .error .shape

/-- A map, given by what its keys and its values are. Of a repeated key the last value stands. -/
def map [Ord κ] [Std.TransOrd κ] (key : Key → Except Refusal κ) (value : Decoder ν) :
    Decoder (Std.ExtTreeMap κ ν)
  | .object members isClosed => do
    let bindings ← members.mapM fun (k, v) => do return (← key k, ← value v)
    closed isClosed (Std.ExtTreeMap.ofList bindings)
  | _ => .error .shape

/-- A key that is any text. -/
def textKey (k : Key) : Except Refusal String :=
  match k.text with
  | some s => .ok s
  | none => .error .shape

/-! ## Records -/

/-- How a record is put together from its fields. A draft holds those read so far. -/
structure Fields (δ α : Type) where
  /-- The names of the fields, in the order they have in an array. -/
  names : List String
  /-- The draft without any field. -/
  start : δ
  /-- Reads the field of a name into a draft. A name that is not known changes nothing. -/
  put : δ → String → Json → Except Refusal δ
  /-- The record, from the draft of an object. -/
  finish : δ → Except Refusal α
  /-- The record, from the draft of an array. -/
  finishArray : δ → Except Refusal α := finish

/-- Reads a field that may be given once. -/
def once (slot : Option α) (decode : Decoder α) (j : Json) : Except Refusal (Option α) :=
  match slot with
  | some _ => .error .shape
  | none => (decode j).map some

/-- A field that has to be given. -/
def required (slot : Option α) : Except Refusal α := slot.elim (.error .shape) .ok

/-- A record written as an object. -/
def object (fields : Fields δ α) (members : List (Key × Json)) (isClosed : Bool) :
    Except Refusal α := do
  let draft ← members.foldlM
    (fun draft (k, v) => do fields.put draft (← textKey k) v) fields.start
  fields.finish (← closed isClosed draft)

/-- A record written as an array. No field may follow the last one. -/
def array (fields : Fields δ α) (items : List Json) (isClosed : Bool) : Except Refusal α := do
  let draft ← (fields.names.zip items).foldlM
    (fun draft (n, v) => fields.put draft n v) fields.start
  if fields.names.length < items.length then .error .shape
  fields.finishArray (← closed isClosed draft)

/-- A record. -/
def record (fields : Fields δ α) : Decoder α
  | .object members isClosed => object fields members isClosed
  | .array items isClosed => array fields items isClosed
  | _ => .error .shape

end Decoder

/-! ## Writing -/

namespace Json

/-- An identifier or any other 64-bit word. -/
def word (n : UInt64) : Json := .integer n.toNat

/-- An identifier. -/
def id {kind : Numbered} (i : Identifier kind) : Json := word i.number

/-- A list of texts. -/
def texts (l : List String) : Json := .list (l.map .text)

end Json

/-- Decodes a text that holds one value and nothing else. -/
def Decoder.ofText {α : Type} (decode : Decoder α) (text : String) : Except Refusal α := do
  let reading := Json.read text
  Decoder.closed reading.whole (← decode reading.tree)

end AccessControl
