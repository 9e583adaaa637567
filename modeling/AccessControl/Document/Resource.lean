import AccessControl.Document.Decoding
import AccessControl.Resource

/-!
# Resources in documents

A resource is a record of its number and bundle, which have to be given, its lock, which is off
where it is not given, and its owner, who may be missing or null.
-/

set_option autoImplicit false

namespace AccessControl.Resource

/-- The fields of a resource that have been read. -/
structure Draft where
  id : Option ResourceId := none
  bundle : Option String := none
  locked : Option Bool := none
  owner : Option (Option SubjectId) := none

/-- How a resource is put together. -/
def fields : Decoder.Fields Draft Resource where
  names := ["id", "bundle", "locked", "owner_id"]
  start := {}
  put d name j := do
    match name with
    | "id" => return { d with id := ← Decoder.once d.id Decoder.id j }
    | "bundle" => return { d with bundle := ← Decoder.once d.bundle Decoder.text j }
    | "locked" => return { d with locked := ← Decoder.once d.locked Decoder.bool j }
    | "owner_id" => return { d with owner := ← Decoder.once d.owner (Decoder.option Decoder.id) j }
    | _ => return d
  finish d := do
    return {
      id := ← Decoder.required d.id
      bundle := ← Decoder.required d.bundle
      locked := d.locked.getD false
      owner := d.owner.getD none }

/-- Decodes a resource. -/
def decode : Decoder Resource := Decoder.record fields

/-- The members that encode a resource. -/
def members (r : Resource) : List (String × Json) :=
  [("id", Json.id r.id), ("bundle", .text r.bundle), ("locked", .bool r.locked),
    ("owner_id", .ofOption Json.id r.owner)]

/-- Encodes a resource. -/
def toJson (r : Resource) : Json := .record r.members

end AccessControl.Resource
