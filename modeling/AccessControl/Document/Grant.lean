import AccessControl.Document.Decoding
import AccessControl.Grant

/-!
# Field items and grants in documents

A stored value is null, a truth value, an integer of 64 bits with a sign, or a text; an item is a
map of such values. A grant is a record of its group and its flags. Flags that are missing are off.
The group may be null, and missing from an object, but an array has to begin with it.
-/

set_option autoImplicit false

namespace AccessControl

namespace FieldValue

/-- Decodes a stored value. -/
def decode : Decoder FieldValue
  | .null => .ok .null
  | .bool b => .ok (.bool b)
  | .integer i =>
    if -(Text.signedLimit : Int) ≤ i ∧ i < Text.signedLimit then .ok (.int (Int64.ofInt i))
    else .error .shape
  | .string (some s) => .ok (.text s)
  | _ => .error .shape

/-- Encodes a stored value. -/
def toJson : FieldValue → Json
  | .null => .null
  | .bool b => .bool b
  | .int i => .integer i.toInt
  | .text s => .text s

end FieldValue

namespace FieldItem

/-- Decodes an item. -/
def decode : Decoder FieldItem := Decoder.map Decoder.textKey FieldValue.decode

/-- Encodes an item. -/
def toJson (item : FieldItem) : Json :=
  .record (item.toList.map fun (key, value) => (key, value.toJson))

end FieldItem

namespace Grant

/-- The fields of a grant that have been read. -/
structure Draft where
  target : Option (Option GroupId) := none
  isPublic : Option Bool := none
  view : Option Bool := none
  update : Option Bool := none
  delete : Option Bool := none

/-- The grant of a draft whose group is known. -/
def Draft.withTarget (d : Draft) (target : Option GroupId) : Grant where
  target
  isPublic := d.isPublic.getD false
  view := d.view.getD false
  update := d.update.getD false
  delete := d.delete.getD false

/-- How a grant is put together. -/
def fields : Decoder.Fields Draft Grant where
  names := ["target_group_id", "grant_public", "grant_view", "grant_update", "grant_delete"]
  start := {}
  put d name j := do
    match name with
    | "target_group_id" =>
      return { d with target := ← Decoder.once d.target (Decoder.option Decoder.id) j }
    | "grant_public" => return { d with isPublic := ← Decoder.once d.isPublic Decoder.bool j }
    | "grant_view" => return { d with view := ← Decoder.once d.view Decoder.bool j }
    | "grant_update" => return { d with update := ← Decoder.once d.update Decoder.bool j }
    | "grant_delete" => return { d with delete := ← Decoder.once d.delete Decoder.bool j }
    | _ => return d
  finish d := .ok (d.withTarget (d.target.getD none))
  finishArray d := do return d.withTarget (← Decoder.required d.target)

/-- Decodes a grant. -/
def decode : Decoder Grant := Decoder.record fields

/-- Encodes a grant. -/
def toJson (g : Grant) : Json :=
  .record
    [("target_group_id", .ofOption Json.id g.target), ("grant_public", .bool g.isPublic),
      ("grant_view", .bool g.view), ("grant_update", .bool g.update),
      ("grant_delete", .bool g.delete)]

end Grant

end AccessControl
