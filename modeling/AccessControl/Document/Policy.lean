import AccessControl.Document.Bundle
import AccessControl.Document.Grant
import AccessControl.Document.Resource
import AccessControl.Document.Subject
import AccessControl.Json.Magnitude
import AccessControl.Policy.Validation

/-!
# Policies in documents

A policy is a record of four parts, any of which may be missing. A declared resource is an object
that holds the fields of a resource and, beside them, the items of its grant fields. Its other
members mean nothing, but they are read in full all the same: a text, a number or a nesting in them
that cannot be read is a fault. Nesting is counted from the start of the text.

The keys of the groups are numbers written as texts: decimal digits without a sign, leading zeros or
escapes.
-/

set_option autoImplicit false

namespace AccessControl

namespace GroupId

/-- A group as the key of a map: the digits of its number as they are always written. -/
def decodeKey (k : Key) : Except Refusal GroupId :=
  match k.plain, k.text.map String.toList with
  | true, some ['0'] => .ok ⟨0⟩
  | true, some (c :: rest) =>
    if c = '0' || c = '+' then .error .shape
    else match Text.readNumeral (c :: rest) with
      | .ok n => .ok ⟨UInt64.ofNat n⟩
      | .error _ => .error .shape
  | _, _ => .error .shape

end GroupId

/-- The number of brackets that may be open at once where a value is read in full. -/
def maxNesting : Nat := 127

namespace Policy

namespace Entry

/-- The parts of a declared resource that have been read. -/
structure Draft where
  resource : Resource.Draft := {}
  fields : Option FieldMap := none

/-- Decodes the items of grant fields. -/
def decodeFields : Decoder FieldMap :=
  Decoder.map Decoder.textKey (Decoder.list FieldItem.decode)

/-- How a declared resource is put together. So many brackets are open in it, its own included. -/
def parts (depth : Nat) : Decoder.Fields Draft Entry where
  names := []
  start := {}
  put d name j := do
    if name = "fields" then
      return { d with fields := ← Decoder.once d.fields decodeFields j }
    else if Resource.fields.names.contains name then
      return { d with resource := ← Resource.fields.put d.resource name j }
    else if j.isReadable (maxNesting - depth) then return d
    else throw .shape
  finish d := do
    return { resource := ← Resource.fields.finish d.resource, fields := d.fields.getD ∅ }

/-- Decodes a declared resource in which so many brackets are open, its own included. -/
def decode (depth : Nat) : Decoder Entry
  | .object members isClosed => Decoder.object (parts depth) members isClosed
  | _ => .error .shape

/-- Encodes the items of grant fields. -/
def fieldsJson (fields : FieldMap) : Json :=
  .record (fields.toList.map fun (field, items) => (field, .list (items.map FieldItem.toJson)))

/-- Encodes a declared resource. -/
def toJson (e : Entry) : Json :=
  .record (e.resource.members ++ [("fields", fieldsJson e.fields)])

end Entry

/-- Decodes what each role gives. -/
def decodeRoles : Decoder (Std.ExtTreeMap RoleId (List String)) :=
  Decoder.map RoleId.decodeKey (Decoder.list Decoder.text)

/-- Decodes the members of each group. -/
def decodeGroups : Decoder (Std.ExtTreeMap GroupId (List SubjectId)) :=
  Decoder.map GroupId.decodeKey (Decoder.list Decoder.id)

/-- The parts of a policy that have been read. -/
structure Draft where
  roles : Option (Std.ExtTreeMap RoleId (List String)) := none
  groups : Option (Std.ExtTreeMap GroupId (List SubjectId)) := none
  bundles : Option BundleMap := none
  entries : Option (List Entry) := none

/-- How a policy is put together. Inside a declared resource three brackets are open: that of the
policy, that of the list and its own. -/
def fields : Decoder.Fields Draft Policy where
  names := ["roles", "groups", "bundles", "resources"]
  start := {}
  put d name j := do
    match name with
    | "roles" =>
      return { d with
        roles := ← Decoder.once d.roles decodeRoles j }
    | "groups" =>
      return { d with
        groups := ← Decoder.once d.groups decodeGroups j }
    | "bundles" => return { d with bundles := ← Decoder.once d.bundles BundleMap.decode j }
    | "resources" =>
      return { d with entries := ← Decoder.once d.entries (Decoder.list (Entry.decode 3)) j }
    | _ => return d
  finish d := .ok
    { roles := d.roles.getD ∅
      groups := d.groups.getD ∅
      bundles := d.bundles.getD ∅
      entries := d.entries.getD [] }

/-- Decodes a policy, consistent or not. -/
def decode : Decoder Policy := Decoder.record fields

/-- Encodes a policy whose maps are gone through in a given order. -/
def toJsonAlong (p : Policy) (l : Listing) : Json :=
  .record
    [("roles", .record (l.roles.map fun (role, permissions) => (role.name, .texts permissions))),
      ("groups", .record (l.groups.map fun (group, members) =>
        (group.text, .list (members.map Json.id)))),
      ("bundles", .record (l.bundles.map fun (bundle, rules) => (bundle, rules.toJson))),
      ("resources", .list (p.entries.map Entry.toJson))]

/-- Encodes a policy. -/
def toJson (p : Policy) : Json := p.toJsonAlong p.listing

/-! ## Loading -/

/-- Why a document is no policy that can be used. -/
inductive LoadFault where
  /-- It cannot be decoded. -/
  | decode (refusal : Refusal)
  /-- It is not consistent. -/
  | invalid (fault : Fault)
deriving DecidableEq, Repr

/-- The wording of each fault, and below it the causes. What exactly is wrong with a text that
cannot be decoded is not said. -/
def LoadFault.messages : LoadFault → List String
  | .decode _ => ["failed to parse policy JSON"]
  | .invalid fault => ["invalid policy: " ++ fault.message, fault.message]

/-- Loads a consistent policy from a text. -/
def load (text : String) : Except LoadFault Policy := do
  let p ← (decode.ofText text).mapError .decode
  match p.fault? with
  | none => return p
  | some fault => throw (.invalid fault)

end Policy

end AccessControl
