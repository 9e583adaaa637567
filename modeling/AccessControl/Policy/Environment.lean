import AccessControl.Chain
import AccessControl.Membership
import AccessControl.Policy.Basic
import AccessControl.Registry

/-!
# The environment that a policy describes

From a policy come those who answer questions: the registry of permissions, the membership of groups
and the store of grants, and with them the bundle rules. The maps of the policy are gone through in
some order, which the result does not depend on.
-/

set_option autoImplicit false

namespace AccessControl.Policy

/-- Those who answer questions about a policy, and the bundle rules. -/
structure Environment where
  registry : Registry
  membership : Membership
  store : Store
  bundles : BundleMap
  /-- The declared resources, in document order. -/
  resources : List Resource

namespace Listing

/-- The registry that the listed roles describe. -/
def registry (l : Listing) : Registry :=
  l.roles.foldl
    (fun registry (role, permissions) => permissions.foldl (·.grant role ·) registry) ∅

/-- The membership that the listed groups describe. -/
def membership (l : Listing) : Membership := Membership.ofList l.groups

/-- The bundle rules that are listed. -/
def bundleMap (l : Listing) : BundleMap :=
  l.bundles.foldl (fun bundles (bundle, rules) => bundles.insert bundle rules) ∅

end Listing

/-- The registry that the roles of a policy describe. -/
def registry (p : Policy) : Registry := p.listing.registry

/-- The membership that the groups of a policy describe. -/
def membership (p : Policy) : Membership := p.listing.membership

/-- The store with the items of all declared resources. -/
def store (p : Policy) : Store :=
  p.entries.foldl
    (fun store e =>
      e.fields.toList.foldl (fun store (field, items) => store.save e.resource field items) store)
    ∅

/-- The environment of a policy whose maps are gone through in a given order. -/
def environmentAlong (p : Policy) (l : Listing) : Environment where
  registry := l.registry
  membership := l.membership
  store := p.store
  bundles := l.bundleMap
  resources := p.resources

/-- The environment of a policy. -/
def environment (p : Policy) : Environment := p.environmentAlong p.listing

/-- Those who answer, none of whom fails. -/
def Environment.collaborators (e : Environment) : Collaborators where
  holds := e.registry.holds
  grantsFor := e.store.grantsFor
  isMember := e.membership.isMember

/-- The chain over the bundle rules, with or without stock permissions. -/
def Environment.chain (e : Environment) (stock : Bool) : Chain := { bundles := e.bundles, stock }

/-- The groups in which a policy places a subject, in ascending order. An anonymous subject is in
none. -/
def groupsOf (p : Policy) (s : Subject) : List GroupId :=
  match s.id with
  | some id => if s.isAnonymous then [] else p.membership.groupsOf id
  | none => []

end AccessControl.Policy
