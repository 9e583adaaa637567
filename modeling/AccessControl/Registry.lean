import AccessControl.Role
import Std.Data.ExtTreeMap

/-!
# The permission registry

Which permissions each role gives. Someone holds a permission when one of their roles gives it; a
role that is not in the registry gives none.
-/

set_option autoImplicit false

namespace AccessControl

/-- The permissions of each role. -/
abbrev Registry := Std.ExtTreeMap RoleId (Std.ExtTreeSet String)

namespace Registry

/-- Lets a role give a permission. -/
def grant (registry : Registry) (role : RoleId) (permission : String) : Registry :=
  registry.alter role fun permissions => some ((permissions.getD ∅).insert permission)

/-- Whether a role gives a permission. -/
def gives (registry : Registry) (role : RoleId) (permission : String) : Bool :=
  match registry[role]? with
  | some permissions => permissions.contains permission
  | none => false

/-- The permissions that a role gives, in ascending order. -/
def permissionsOf (registry : Registry) (role : RoleId) : List String :=
  (registry.getD role ∅).toList

/-- Whether any of some roles gives a permission. -/
def holds (registry : Registry) (roles : RoleSet) (permission : String) : Bool :=
  roles.toList.any (registry.gives · permission)

end Registry

end AccessControl
