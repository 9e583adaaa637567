import AccessControl.Policy.Basic
import AccessControl.Text.Quoted

/-!
# Consistent policies

A policy is consistent when no role lists a blank permission, no two resources share bundle and
number, the bundle of every resource is declared, and every field a resource has items for is a
grant field of its bundle. Roles are looked at before resources, and resources in document order; of
one resource the faults are looked for in the order just given. Where several roles are at fault,
which of them is reported hangs on the order in which the roles are gone through, so that order is
an argument.
-/

set_option autoImplicit false

namespace AccessControl.Policy

/-- What makes a policy inconsistent. -/
inductive Fault where
  /-- A role lists a blank permission. -/
  | emptyPermission (role : RoleId)
  /-- An earlier resource has the same bundle and number. -/
  | duplicateResource (key : ResourceKey)
  /-- The bundle of a resource is not declared. -/
  | unknownBundle (key : ResourceKey)
  /-- A resource has items for a field that is no grant field of its bundle. -/
  | unknownGrantField (key : ResourceKey) (field : String)
deriving DecidableEq, Repr

/-- A resource as messages name it. -/
def keyText (key : ResourceKey) : String := key.bundle ++ ":" ++ key.id.text

/-- The wording of each fault. -/
def Fault.message : Fault → String
  | .emptyPermission role => "role " ++ role.name ++ " lists an empty permission"
  | .duplicateResource key => "duplicate resource " ++ keyText key
  | .unknownBundle key => "resource " ++ keyText key ++ " uses undeclared bundle"
  | .unknownGrantField key field =>
    "resource " ++ keyText key ++ " has values for undeclared grant field " ++ Text.quote field

/-- The first of some roles that lists a blank permission. -/
def roleFault? (roles : List (RoleId × List String)) : Option Fault :=
  (roles.find? fun (_, permissions) => permissions.any Text.isBlankText).map
    fun (role, _) => .emptyPermission role

/-- What is wrong with a resource that comes after those with the given keys. -/
def entryFault? (bundles : BundleMap) (earlier : List ResourceKey) (e : Entry) : Option Fault :=
  let key := e.resource.key
  if earlier.contains key then some (.duplicateResource key)
  else match bundles[e.resource.bundle]? with
    | none => some (.unknownBundle key)
    | some rules =>
      (e.fields.keys.find? fun field => !rules.hasGrantField field).map
        (.unknownGrantField key)

/-- The first fault among resources that come after those with the given keys. -/
def entriesFault? (bundles : BundleMap) : List ResourceKey → List Entry → Option Fault
  | _, [] => none
  | earlier, e :: rest =>
    match entryFault? bundles earlier e with
    | some fault => some fault
    | none => entriesFault? bundles (e.resource.key :: earlier) rest

/-- The first fault of a policy whose roles are gone through in a given order. -/
def faultAlong? (p : Policy) (roles : List (RoleId × List String)) : Option Fault :=
  match roleFault? roles with
  | some fault => some fault
  | none => entriesFault? p.bundles [] p.entries

/-- The first fault of a policy, its roles in ascending order. -/
def fault? (p : Policy) : Option Fault := p.faultAlong? p.roles.toList

end AccessControl.Policy
