import AccessControl.Bundle
import AccessControl.Lock

/-!
# Resolving a request from bundle rules and grants

`Resolver.resolve` decides a request from what is declared for the bundle and granted on the
resource:

1. the lock and the admin permission come first (`Lock.check`);
2. viewing a resource of a bundle with view permissions takes all of them, held by roles other than
   `administrator`;
3. in a bundle with grant fields the grants of the resource decide, the first one that fits; without
   any grant, and for `create`, the decision is left open;
4. otherwise there is no opinion.

Nobody is asked more than the decision needs: the grants are asked for once and only in step 3, and
the groups of a subject only grant by grant, and never for an anonymous subject.
-/

set_option autoImplicit false

namespace AccessControl.Resolver

/-! ## View permissions -/

/-- The first of some permissions that the roles do not give. -/
def firstMissing (roles : RoleSet) : List String → Consultation (Option String)
  | [] => pure none
  | permission :: rest => do
    if ← Consultation.holds roles permission then firstMissing roles rest
    else return some permission

/-- Viewing by permissions: all are needed. -/
def checkViewPermissions (s : Subject) (r : Resource) (rules : BundleRules) :
    Consultation Decision := do
  let missing ← firstMissing s.roles.withoutAdministrator (rules.viewPermissionsFor r)
  return (Decision.allowedIf missing.isNone "all view permissions held"
    ("missing permission '" ++ missing.getD "" ++ "'")).perPermissions

/-! ## Grants -/

/-- Whether a grant gives an operation to a subject as a member of its group. -/
def appliesToMember (s : Subject) (g : Grant) (op : Operation) : Consultation Bool :=
  if !g.givesMembers op || s.isAnonymous then pure false
  else
    match s.id, g.target with
    | some subject, some group => Consultation.isMember subject group
    | _, _ => pure false

/-- A decision about a resource that its grants settle. -/
def byGrants (d : Decision) (r : Resource) (op : Operation) : Decision :=
  (d.withContext (Decision.grantsContext op)).withTag r.cacheTag

/-- Why a grant for everyone lets anyone through. -/
def publicReason (g : Grant) : String :=
  match g.target with
  | some group => "public grant via group " ++ group.text
  | none => "public grant"

/-- Why a grant for members lets one of them through. -/
def memberReason (g : Grant) (op : Operation) : String :=
  op.name ++ " granted to group " ++ (g.target.map Identifier.text).getD ""

/-- Evaluates grants in order, until one fits. -/
def evaluate (s : Subject) (r : Resource) (op : Operation) : List Grant → Consultation Decision
  | [] => return byGrants (Decision.forbidden ("no grant allows " ++ op.name)) r op
  | g :: rest =>
    if g.isMalformed then evaluate s r op rest
    else if g.givesEveryone op then
      return byGrants (Decision.allowed (publicReason g)) r op
    else do
      if ← appliesToMember s g op then
        return byGrants (Decision.allowed (memberReason g op)) r op
      else evaluate s r op rest

/-- The decision of the grants of a resource. -/
def checkGrants (s : Subject) (r : Resource) (op : Operation) : Consultation Decision := do
  let grants ← Consultation.grantsOf r
  if grants.isEmpty then
    return (Decision.neutral "resource has no grants").withTag r.cacheTag
  else if op == .create then
    return (Decision.neutral "grants do not cover create").withTag r.cacheTag
  else evaluate s r op grants

/-! ## The whole order -/

/-- Why nothing is said about a bundle without rules. -/
def noRulesReason (op : Operation) (bundle : String) : String :=
  "no " ++ op.name ++ " rules for bundle '" ++ bundle ++ "'"

/-- What the rules say about a request that the lock and the admin permission leave open. -/
def applyRules (rules : BundleRules) (s : Subject) (r : Resource) (op : Operation) :
    Consultation Decision :=
  if op == .view && !rules.viewPermissions.isEmpty then checkViewPermissions s r rules
  else if rules.usesGrants then checkGrants s r op
  else pure (Decision.neutral (noRulesReason op r.bundle))

/-- Decides a request from bundle rules and grants. -/
def resolve (bundles : BundleMap) (s : Subject) (r : Resource) (op : Operation) :
    Consultation Decision := do
  let rules := bundles.rulesFor r.bundle
  match ← Lock.check s r op (rules.adminPermissionFor r) with
  | some d => return d
  | none => applyRules rules s r op

/-- Decides a request for an operation given by name. An unknown name is refused before anything is
asked. -/
def resolveNamed (bundles : BundleMap) (s : Subject) (r : Resource) (name : String) :
    Except InvalidOperation (Consultation Decision) :=
  (Operation.parse name).map (resolve bundles s r)

end AccessControl.Resolver
