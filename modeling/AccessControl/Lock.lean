import AccessControl.Consultation
import AccessControl.Decision
import AccessControl.Subject

/-!
# The lock and the admin permission

Two rules come before all others. A locked resource cannot be deleted, by anyone. And whoever holds
the admin permission of the bundle may do anything else with the resource, except that viewing is
not theirs by that permission. The lock comes first and is settled without asking anybody.
-/

set_option autoImplicit false

namespace AccessControl.Lock

/-- Why the deletion of a locked resource is refused. -/
def reason : String := "resource is locked"

/-- Why whoever holds a permission is let through. -/
def holdsReason (permission : String) : String := "subject has '" ++ permission ++ "'"

/-- The decision of the two rules, or `none` where neither settles the request. The admin permission
is asked for with all roles of the subject, `administrator` included. -/
def check (s : Subject) (r : Resource) (op : Operation) (adminPermission : String) :
    Consultation (Option Decision) := do
  if op == .delete && r.locked then
    return some ((Decision.forbidden reason).withTag r.cacheTag)
  if op == .view then
    return none
  if ← Consultation.holds s.roles adminPermission then
    return some (Decision.allowed (holdsReason adminPermission)).perPermissions
  return none

end AccessControl.Lock
