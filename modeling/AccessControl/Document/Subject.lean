import AccessControl.Document.Decoding
import AccessControl.Subject

/-!
# Roles and subjects in documents

A role is a text, a role set a list of them, and a subject a record of an account, which may be
null, and roles; a field that is missing means a visitor or no roles.
-/

set_option autoImplicit false

namespace AccessControl

namespace RoleId

/-- A role with a given name, which has to be valid. -/
def decodeName (name : String) : Except Refusal RoleId := (ofString name).mapError .role

/-- Decodes a role. -/
def decode : Decoder RoleId := fun j => do decodeName (← Decoder.text j)

/-- A role as the key of a map. -/
def decodeKey (k : Key) : Except Refusal RoleId := do decodeName (← Decoder.textKey k)

/-- Encodes a role. -/
def toJson (r : RoleId) : Json := .text r.name

end RoleId

namespace RoleSet

/-- Decodes a role set. -/
def decode : Decoder RoleSet := fun j => do
  return Std.ExtTreeSet.ofList (← Decoder.list RoleId.decode j)

/-- Encodes a role set. -/
def toJson (roles : RoleSet) : Json := .list (roles.toList.map RoleId.toJson)

end RoleSet

namespace Subject

/-- The fields of a subject that have been read. -/
structure Draft where
  id : Option (Option SubjectId) := none
  roles : Option RoleSet := none

/-- How a subject is put together. -/
def fields : Decoder.Fields Draft Subject where
  names := ["id", "roles"]
  start := {}
  put d name j := do
    match name with
    | "id" => return { d with id := ← Decoder.once d.id (Decoder.option Decoder.id) j }
    | "roles" => return { d with roles := ← Decoder.once d.roles RoleSet.decode j }
    | _ => return d
  finish d := .ok { id := d.id.getD none, roles := d.roles.getD ∅ }

/-- Decodes a subject. -/
def decode : Decoder Subject := Decoder.record fields

/-- Encodes a subject. -/
def toJson (s : Subject) : Json :=
  .record [("id", .ofOption Json.id s.id), ("roles", s.roles.toJson)]

end Subject

end AccessControl
