import AccessControl.Lock

/-!
# Stock permissions

The layer that is asked when bundle rules and grants do not give access. It knows a fixed stock of
permissions: one to view any content, and for each bundle those to create its content and to edit or
delete any of it or one's own. The layer allows or leaves open; it never forbids.
-/

set_option autoImplicit false

namespace AccessControl.StockPermissions

/-- The permission to view content. -/
def accessContent : String := "access content"

/-- The permission for all resources of a bundle. -/
def anyPermission (bundle : String) : Operation → String
  | .view => accessContent
  | .update => "edit any " ++ bundle ++ " content"
  | .delete => "delete any " ++ bundle ++ " content"
  | .create => "create " ++ bundle ++ " content"

/-- The permission for the resources of a bundle that one owns, where there is such a permission. -/
def ownPermission? (bundle : String) : Operation → Option String
  | .update => some ("edit own " ++ bundle ++ " content")
  | .delete => some ("delete own " ++ bundle ++ " content")
  | .view | .create => none

/-- Whether the subject owns the resource and holds the permission for owners, which is asked only
of an owner. -/
def ownerHolds (s : Subject) (r : Resource) (own : String) : Consultation Bool :=
  if r.isOwnedBy s.id then Consultation.holds s.roles own else pure false

/-- The decision of the stock permissions, asked for with all roles of the subject. -/
def check (s : Subject) (r : Resource) (op : Operation) : Consultation Decision := do
  let any := anyPermission r.bundle op
  if ← Consultation.holds s.roles any then
    return (Decision.allowed (Lock.holdsReason any)).perPermissions
  match ownPermission? r.bundle op with
  | none => return (Decision.neutral ("subject lacks '" ++ any ++ "'")).perPermissions
  | some own =>
    let decision :=
      if ← ownerHolds s r own then
        Decision.allowed ("subject owns resource and has '" ++ own ++ "'")
      else Decision.neutral ("subject lacks '" ++ any ++ "' and '" ++ own ++ "'")
    return (decision.perPermissions.withContext Decision.subjectContext).withTag r.cacheTag

end AccessControl.StockPermissions
