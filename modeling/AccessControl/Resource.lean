import AccessControl.Identifier

/-!
# Resources

A resource is a thing of a bundle (its type), numbered within that bundle. It may be locked, which
protects it from deletion, and it may have an owner. Its *cache tag* names it in texts, and
decisions that depend on it carry that tag.
-/

set_option autoImplicit false

namespace AccessControl

/-- A thing that access is asked for. -/
structure Resource where
  /-- The number within the bundle. -/
  id : ResourceId
  /-- The bundle, such as `article`. -/
  bundle : String
  /-- Whether deletion is ruled out. -/
  locked : Bool
  /-- The owner, if there is one. -/
  owner : Option SubjectId
deriving DecidableEq, Repr

/-- Why there is no resource of some bundle. -/
inductive ResourceFault where
  /-- The bundle has no name. -/
  | emptyBundle
deriving DecidableEq, Repr

/-- The wording of each fault. -/
def ResourceFault.message : ResourceFault → String
  | .emptyBundle => "bundle name cannot be empty"

namespace Resource

/-- A resource that is neither locked nor owned. -/
def plain (id : ResourceId) (bundle : String) : Resource :=
  { id, bundle, locked := false, owner := none }

/-- A plain resource of a bundle, which has to have a name. -/
def create (id : ResourceId) (bundle : String) : Except ResourceFault Resource :=
  if bundle.isEmpty then .error .emptyBundle else .ok (plain id bundle)

/-- What decisions about the resource are tagged with. -/
def cacheTag (r : Resource) : String := r.bundle ++ ":" ++ r.id.text

/-- Whether someone is the owner. Nobody owns a resource without an owner, and a visitor without an
account owns nothing. -/
def isOwnedBy (r : Resource) (subject : Option SubjectId) : Bool :=
  match r.owner, subject with
  | some owner, some s => owner == s
  | _, _ => false

theorem isOwnedBy_iff {r : Resource} {subject : Option SubjectId} :
    r.isOwnedBy subject = true ↔ ∃ owner, r.owner = some owner ∧ subject = some owner := by
  constructor
  · intro h
    unfold isOwnedBy at h
    split at h
    · next owner account howner =>
      rw [beq_iff_eq] at h
      exact ⟨owner, howner, congrArg some h.symm⟩
    · exact nomatch h
  · rintro ⟨owner, howner, rfl⟩
    unfold isOwnedBy
    rw [howner]
    exact beq_self_eq_true owner

end Resource

end AccessControl
