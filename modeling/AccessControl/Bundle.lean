import AccessControl.Template
import Std.Data.ExtTreeMap

/-!
# Bundle rules

How the resources of a bundle are protected: which permission overrides everything but viewing,
which permissions viewing takes, and which fields hold grants. A bundle for which nothing is
declared has the default rules, which ask for nothing and hold no grants.
-/

set_option autoImplicit false

namespace AccessControl

/-- The rules of one bundle. Permissions are templates. -/
structure BundleRules where
  /-- The permission to do anything but view; by default `administer` and the bundle. -/
  adminPermission : Option String := none
  /-- The permissions that viewing takes, all of them. -/
  viewPermissions : List String := []
  /-- The fields that hold grants. -/
  grantFields : List String := []
deriving DecidableEq, Repr, Inhabited

namespace BundleRules

/-- Rules with a single grant field. -/
def withGrantField (field : String) : BundleRules := { grantFields := [field] }

/-- The permission to do anything with a resource but view it. -/
def adminPermissionFor (rules : BundleRules) (r : Resource) : String :=
  match rules.adminPermission with
  | some template => Template.expand template r
  | none => "administer " ++ r.bundle

/-- The permissions that viewing a resource takes. -/
def viewPermissionsFor (rules : BundleRules) (r : Resource) : List String :=
  rules.viewPermissions.map (Template.expand · r)

/-- Whether resources of the bundle hold grants. -/
def usesGrants (rules : BundleRules) : Bool := !rules.grantFields.isEmpty

/-- Whether a field holds grants. -/
def hasGrantField (rules : BundleRules) (field : String) : Bool := rules.grantFields.contains field

variable {rules : BundleRules}

theorem adminPermissionFor_of_some {template : String}
    (h : rules.adminPermission = some template) (r : Resource) :
    rules.adminPermissionFor r = Template.expand template r := by
  rw [adminPermissionFor, h]

theorem adminPermissionFor_of_none (h : rules.adminPermission = none) (r : Resource) :
    rules.adminPermissionFor r = "administer " ++ r.bundle := by
  rw [adminPermissionFor, h]

theorem usesGrants_iff : rules.usesGrants = true ↔ rules.grantFields ≠ [] := by
  simp [usesGrants]

end BundleRules

/-- The declared rules, by bundle. -/
abbrev BundleMap := Std.ExtTreeMap String BundleRules

namespace BundleMap

/-- The rules of a bundle: the declared ones or the default. -/
def rulesFor (bundles : BundleMap) (bundle : String) : BundleRules := bundles.getD bundle {}

theorem rulesFor_eq (bundles : BundleMap) (bundle : String) :
    bundles.rulesFor bundle = bundles[bundle]?.getD {} :=
  Std.ExtTreeMap.getD_eq_getD_getElem?

theorem rulesFor_insert_self (bundles : BundleMap) (bundle : String) (rules : BundleRules) :
    rulesFor (bundles.insert bundle rules) bundle = rules :=
  Std.ExtTreeMap.getD_insert_self

end BundleMap

end AccessControl
