import AccessControl.Bundle
import AccessControl.Document.Decoding

/-!
# Bundle rules in documents

The rules of a bundle are a record of which every field may be missing; the admin permission may
also be null. A bundle map is an object.
-/

set_option autoImplicit false

namespace AccessControl

namespace BundleRules

/-- The fields of bundle rules that have been read. -/
structure Draft where
  adminPermission : Option (Option String) := none
  viewPermissions : Option (List String) := none
  grantFields : Option (List String) := none

/-- How bundle rules are put together. -/
def fields : Decoder.Fields Draft BundleRules where
  names := ["admin_permission", "view_permissions", "grant_fields"]
  start := {}
  put d name j := do
    match name with
    | "admin_permission" =>
      return { d with
        adminPermission := ← Decoder.once d.adminPermission (Decoder.option Decoder.text) j }
    | "view_permissions" =>
      return { d with
        viewPermissions := ← Decoder.once d.viewPermissions (Decoder.list Decoder.text) j }
    | "grant_fields" =>
      return { d with grantFields := ← Decoder.once d.grantFields (Decoder.list Decoder.text) j }
    | _ => return d
  finish d := .ok
    { adminPermission := d.adminPermission.getD none
      viewPermissions := d.viewPermissions.getD []
      grantFields := d.grantFields.getD [] }

/-- Decodes bundle rules. -/
def decode : Decoder BundleRules := Decoder.record fields

/-- Encodes bundle rules. -/
def toJson (rules : BundleRules) : Json :=
  .record
    [("admin_permission", .ofOption Json.text rules.adminPermission),
      ("view_permissions", .texts rules.viewPermissions),
      ("grant_fields", .texts rules.grantFields)]

end BundleRules

namespace BundleMap

/-- Decodes a bundle map. -/
def decode : Decoder BundleMap := Decoder.map Decoder.textKey BundleRules.decode

/-- Encodes a bundle map. -/
def toJson (bundles : BundleMap) : Json :=
  .record (bundles.toList.map fun (bundle, rules) => (bundle, rules.toJson))

end BundleMap

end AccessControl
