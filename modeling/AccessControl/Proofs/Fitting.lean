import AccessControl.Resolver

/-!
# Grants that fit

The loop over the grants of a resource skips malformed grants, looks at the flag for everyone first
and asks for membership last, and only for a subject that can be a member. Of all this it is enough
to know whether a grant **fits** (`Collaborators.fits`): it names its group, and it gives the
operation to everyone or to the members, of whom the subject is one.

Two branches of the loop are there for grants without a group, a public one and one for members.
`target_of_gives` shows that neither is ever taken, since such a grant is malformed; what remains is
that the decision is that of the first grant that fits (`eval_evaluate`).
-/

set_option autoImplicit false

namespace AccessControl

namespace Collaborators

/-- Whether a subject counts as a member of a group. Anonymous subjects count as members of none,
whatever the membership says. -/
def places (k : Collaborators) (s : Subject) (group : GroupId) : Bool :=
  !s.isAnonymous && s.id.any (k.isMember · group)

/-- Whether a grant lets a subject do an operation. It has to name its group, and everyone may do the
operation or the members of the group may and the subject is one. -/
def fits (k : Collaborators) (s : Subject) (op : Operation) (g : Grant) : Bool :=
  g.target.any fun group => g.givesEveryone op || (g.givesMembers op && k.places s group)

variable {k : Collaborators} {s : Subject} {op : Operation} {g : Grant} {group : GroupId}

theorem places_iff :
    k.places s group = true ↔
      s.isAnonymous = false ∧ ∃ subject, s.id = some subject ∧ k.isMember subject group = true := by
  simp only [places, Bool.and_eq_true, Bool.not_eq_true', Option.any_eq_true]

theorem fits_iff :
    k.fits s op g = true ↔ ∃ group, g.target = some group ∧
      (g.givesEveryone op = true ∨ g.givesMembers op = true ∧ k.places s group = true) := by
  simp only [fits, Option.any_eq_true, Bool.or_eq_true, Bool.and_eq_true]

/-- Where a grant fits there is a first one that does. -/
theorem exists_first_of_fits {grants : List Grant} (hg : g ∈ grants) (hfits : k.fits s op g = true) :
    ∃ first, grants.find? (k.fits s op) = some first :=
  Option.isSome_iff_exists.mp (List.find?_isSome.mpr ⟨g, hg, hfits⟩)

end Collaborators

namespace Resolver

variable {k : Collaborators} {s : Subject} {r : Resource} {op : Operation}

theorem eval_appliesToMember (g : Grant) :
    (appliesToMember s g op).eval k = (g.givesMembers op && g.target.any (k.places s)) := by
  unfold appliesToMember
  cases hm : g.givesMembers op
  · rfl
  cases ha : s.isAnonymous
  · cases hs : s.id with
    | none => cases ht : g.target <;> simp [Collaborators.places, hs]
    | some subject =>
      cases ht : g.target with
      | none => rfl
      | some group => simp [Collaborators.places, ha, hs, Consultation.isMember,
          Consultation.eval, Collaborators.answer]
  · cases ht : g.target <;> simp [Collaborators.places, ha]

/-- Why a grant that fits lets the subject through. -/
def fitReason (g : Grant) (op : Operation) : String :=
  if g.givesEveryone op then publicReason g else memberReason g op

/-- A malformed grant fits nobody: it names no group. -/
theorem fits_of_isMalformed {g : Grant} (h : g.isMalformed = true) : k.fits s op g = false := by
  simp [Collaborators.fits, (Grant.isMalformed_iff.mp h).1]

/-- A grant that is not malformed gives something only through a group it names. -/
theorem target_of_gives {g : Grant} (h : g.isMalformed = false)
    (hg : g.givesEveryone op = true ∨ g.givesMembers op = true) : ∃ group, g.target = some group := by
  cases ht : g.target with
  | some group => exact ⟨group, rfl⟩
  | none =>
    -- What is given is given by a flag.
    have hflag : g.isPublic = true ∨ g.view = true ∨ g.update = true ∨ g.delete = true := by
      rcases hg with hg | hg
      · exact Or.inl (Grant.givesEveryone_iff.mp hg).2
      · exact Or.inr ((Grant.givesMembers_iff.mp hg).imp And.right (Or.imp And.right And.right))
    rw [Grant.isMalformed_iff.mpr ⟨ht, hflag⟩] at h
    exact nomatch h

theorem fits_of_givesEveryone {g : Grant} (h : g.isMalformed = false)
    (hg : g.givesEveryone op = true) : k.fits s op g = true := by
  obtain ⟨group, ht⟩ := target_of_gives h (Or.inl hg)
  simp [Collaborators.fits, ht, hg]

/-- Past the flag for everyone, a grant fits those whom it fits as members. -/
theorem fits_eq_eval_appliesToMember {g : Grant} (hg : g.givesEveryone op = false) :
    k.fits s op g = (appliesToMember s g op).eval k := by
  rw [eval_appliesToMember]
  cases ht : g.target <;> simp [Collaborators.fits, ht, hg]

/-- One round of the loop: a grant that fits ends it. -/
theorem eval_evaluate_cons (g : Grant) (rest : List Grant) :
    (evaluate s r op (g :: rest)).eval k =
      if k.fits s op g then byGrants (Decision.allowed (fitReason g op)) r op
      else (evaluate s r op rest).eval k := by
  rw [evaluate]
  cases hm : g.isMalformed with
  | true =>
    rw [if_pos rfl, fits_of_isMalformed hm]
    rfl
  | false =>
    rw [if_neg (by simp)]
    cases he : g.givesEveryone op with
    | true =>
      rw [if_pos rfl, fits_of_givesEveryone hm he, if_pos rfl, fitReason, if_pos he]
      rfl
    | false =>
      rw [if_neg (by simp), Consultation.eval_bind, fits_eq_eval_appliesToMember he, fitReason,
        he]
      cases (appliesToMember s g op).eval k <;> rfl

/-- **The first grant that fits decides**, and none at all refuses. -/
theorem eval_evaluate (grants : List Grant) :
    (evaluate s r op grants).eval k =
      match grants.find? (k.fits s op) with
      | some g => byGrants (Decision.allowed (fitReason g op)) r op
      | none => byGrants (Decision.forbidden ("no grant allows " ++ op.name)) r op := by
  induction grants with
  | nil => rfl
  | cons g rest ih =>
    rw [eval_evaluate_cons, List.find?_cons]
    cases k.fits s op g with
    | true => rfl
    | false => exact ih

end Resolver

end AccessControl
