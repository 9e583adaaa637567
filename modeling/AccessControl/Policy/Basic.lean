import AccessControl.Bundle
import AccessControl.Store
import AccessControl.Subject

/-!
# Policies

A policy declares what roles give, who belongs to which group, how bundles are protected, and which
resources there are with the items of their grant fields. What is declared by name is a map; the
resources are a list, in the order of the document.
-/

set_option autoImplicit false

namespace AccessControl

/-- A declared resource with the items of its grant fields. -/
structure Policy.Entry where
  resource : Resource
  fields : FieldMap := ∅
deriving DecidableEq

/-- All that is declared. -/
structure Policy where
  /-- The permissions that each role gives. -/
  roles : Std.ExtTreeMap RoleId (List String) := ∅
  /-- The members of each group. -/
  groups : Std.ExtTreeMap GroupId (List SubjectId) := ∅
  /-- The rules of each bundle. -/
  bundles : BundleMap := ∅
  /-- The declared resources. -/
  entries : List Policy.Entry := []
deriving DecidableEq

namespace Policy

/-- The declared resources. -/
def resources (p : Policy) : List Resource := p.entries.map Entry.resource

/-- The first declared resource of a bundle with a number. -/
def resource? (p : Policy) (bundle : String) (id : ResourceId) : Option Resource :=
  p.resources.find? fun r => r.bundle == bundle && r.id == id

/-- An order in which the maps of a policy can be gone through: each lists the bindings of one. -/
structure Listing where
  roles : List (RoleId × List String)
  groups : List (GroupId × List SubjectId)
  bundles : List (String × BundleRules)

/-- The ascending order. -/
def listing (p : Policy) : Listing where
  roles := p.roles.toList
  groups := p.groups.toList
  bundles := p.bundles.toList

end Policy

end AccessControl
