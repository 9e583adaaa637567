import AccessControl.Resolver
import AccessControl.StockPermissions

/-!
# The chain of authorities

A chain asks the resolver and then, if it is built that way, the stock permissions. The second layer
is asked when the first has no opinion, and also when the grants refuse an update, a deletion or a
creation, which role permissions may overturn. Two refusals are final: that of a view, and that of
the deletion of a locked resource.
-/

set_option autoImplicit false

namespace AccessControl

/-- The layers that decide. -/
structure Chain where
  /-- The bundle rules of the resolver. -/
  bundles : BundleMap
  /-- Whether stock permissions are asked after the resolver. -/
  stock : Bool

namespace Chain

/-- Whether role permissions may overturn a refusal. -/
def isOverridable (r : Resource) : Operation → Bool
  | .view => false
  | .delete => !r.locked
  | .update | .create => true

/-- Whether a decision of the resolver stands without asking on. -/
def isFinal (d : Decision) (r : Resource) (op : Operation) : Bool :=
  d.isAllowed || (d.isForbidden && !isOverridable r op)

/-- Joins the decisions of the two layers. An allowed one of the second layer wins; otherwise the
stronger one does. -/
def join (first second : Decision) : Decision :=
  if second.isAllowed then second.withCacheFrom first else first.orElse second

/-- The decision of the chain. One that stays neutral gives no access. -/
def check (c : Chain) (s : Subject) (r : Resource) (op : Operation) : Consultation Decision := do
  let first ← Resolver.resolve c.bundles s r op
  if !c.stock || isFinal first r op then
    return first
  return join first (← StockPermissions.check s r op)

/-- The resources that a subject may view, in the order given. -/
def visible (c : Chain) (s : Subject) : List Resource → Consultation (List Resource)
  | [] => pure []
  | r :: rest => do
    let d ← c.check s r .view
    let others ← c.visible s rest
    return if d.isAllowed then r :: others else others

end Chain

end AccessControl
