import AccessControl.Chain
import AccessControl.Proofs.Fitting

/-!
# Rulings

What a request can come to, and when. Each of the two layers is a procedure that asks and returns
early; a *ruling* is one way through it, with everything that has to hold for that way and the
decision at its end. `Resolver.Ruling`, `StockPermissions.Ruling` and `Chain.Ruling` list the ways,
and each comes with the same two facts: a ruling tells the value of the procedure (`eval_eq`), and
the value always has one (`ruling_eval`).

So a statement about all decisions is a case analysis over rulings, and a statement about *two*
requests takes the ruling of the one apart and builds that of the other; nothing above this module
opens a procedure again.
-/

set_option autoImplicit false

namespace AccessControl

/-! ## The resolver -/

namespace Resolver

variable {k : Collaborators} {s : Subject} {r : Resource} {op : Operation}

/-- Neither the lock, nor the admin permission, nor required view permissions settle the request: it
is left to the grants, if the bundle has any. -/
structure LeftToGrants (k : Collaborators) (rules : BundleRules) (s : Subject) (r : Resource)
    (op : Operation) : Prop where
  unlocked : op = .delete → r.locked = false
  notAdmin : op ≠ .view → k.holds s.roles (rules.adminPermissionFor r) = false
  notGated : op = .view → rules.viewPermissions = []

/-- The ways through the resolver. -/
inductive Ruling (k : Collaborators) (rules : BundleRules) (s : Subject) (r : Resource) :
    Operation → Decision → Prop
  /-- A locked resource is not deleted. -/
  | locked (hlocked : r.locked = true) :
      Ruling k rules s r .delete ((Decision.forbidden Lock.reason).withTag r.cacheTag)
  /-- Whoever holds the admin permission may do anything but view. -/
  | admin {op : Operation} (hop : op ≠ .view) (hopen : op = .delete → r.locked = false)
      (hadmin : k.holds s.roles (rules.adminPermissionFor r) = true) :
      Ruling k rules s r op
        (Decision.allowed (Lock.holdsReason (rules.adminPermissionFor r))).perPermissions
  /-- All permissions that viewing takes are held. -/
  | viewHeld (hgated : rules.viewPermissions ≠ [])
      (hall : (rules.viewPermissionsFor r).find?
        (fun p => !k.holds s.roles.withoutAdministrator p) = none) :
      Ruling k rules s r .view (Decision.allowed "all view permissions held").perPermissions
  /-- A permission that viewing takes is missing. -/
  | viewMissing {p : String} (hgated : rules.viewPermissions ≠ [])
      (hmissing : (rules.viewPermissionsFor r).find?
        (fun p => !k.holds s.roles.withoutAdministrator p) = some p) :
      Ruling k rules s r .view
        (Decision.forbidden ("missing permission '" ++ p ++ "'")).perPermissions
  /-- There is no grant. -/
  | noGrants {op : Operation} (hleft : LeftToGrants k rules s r op)
      (huses : rules.usesGrants = true) (hnone : k.grantsFor r = []) :
      Ruling k rules s r op ((Decision.neutral "resource has no grants").withTag r.cacheTag)
  /-- Grants do not speak about creation. -/
  | notCovered (hleft : LeftToGrants k rules s r .create) (huses : rules.usesGrants = true)
      (hsome : k.grantsFor r ≠ []) :
      Ruling k rules s r .create
        ((Decision.neutral "grants do not cover create").withTag r.cacheTag)
  /-- A grant fits. -/
  | granted {op : Operation} {g : Grant} (hleft : LeftToGrants k rules s r op)
      (huses : rules.usesGrants = true) (hop : op ≠ .create)
      (hfits : (k.grantsFor r).find? (k.fits s op) = some g) :
      Ruling k rules s r op (byGrants (Decision.allowed (fitReason g op)) r op)
  /-- There are grants and none fits. -/
  | refused {op : Operation} (hleft : LeftToGrants k rules s r op)
      (huses : rules.usesGrants = true) (hop : op ≠ .create) (hsome : k.grantsFor r ≠ [])
      (hnone : (k.grantsFor r).find? (k.fits s op) = none) :
      Ruling k rules s r op
        (byGrants (Decision.forbidden ("no grant allows " ++ op.name)) r op)
  /-- The bundle has no grant fields. -/
  | noRules {op : Operation} (hleft : LeftToGrants k rules s r op)
      (huses : rules.usesGrants = false) :
      Ruling k rules s r op (Decision.neutral (noRulesReason op r.bundle))

theorem eval_firstMissing (roles : RoleSet) (permissions : List String) :
    (firstMissing roles permissions).eval k = permissions.find? fun p => !k.holds roles p := by
  induction permissions with
  | nil => rfl
  | cons p rest ih =>
    rw [firstMissing, Consultation.eval_bind, List.find?_cons]
    show (if k.holds roles p then firstMissing roles rest else return some p).eval k = _
    cases k.holds roles p with
    | true => exact ih
    | false => rfl

theorem eval_checkViewPermissions (rules : BundleRules) :
    (checkViewPermissions s r rules).eval k =
      match (rules.viewPermissionsFor r).find? (fun p => !k.holds s.roles.withoutAdministrator p) with
      | none => (Decision.allowed "all view permissions held").perPermissions
      | some p => (Decision.forbidden ("missing permission '" ++ p ++ "'")).perPermissions := by
  rw [checkViewPermissions, Consultation.eval_bind, eval_firstMissing]
  cases (rules.viewPermissionsFor r).find? (fun p => !k.holds s.roles.withoutAdministrator p) with
  | none => rfl
  | some p => rfl

theorem eval_checkGrants :
    (checkGrants s r op).eval k =
      if (k.grantsFor r).isEmpty then
        (Decision.neutral "resource has no grants").withTag r.cacheTag
      else if op == .create then
        (Decision.neutral "grants do not cover create").withTag r.cacheTag
      else (evaluate s r op (k.grantsFor r)).eval k := by
  rw [checkGrants, Consultation.eval_bind]
  show (if (k.grantsFor r).isEmpty then _ else _ : Consultation Decision).eval k = _
  split
  · rfl
  · split <;> rfl

/-- What the lock and the admin permission settle is the decision; the rest is up to the rules. -/
theorem eval_resolve (bundles : BundleMap) :
    (resolve bundles s r op).eval k =
      match (Lock.check s r op ((bundles.rulesFor r.bundle).adminPermissionFor r)).eval k with
      | some d => d
      | none => (applyRules (bundles.rulesFor r.bundle) s r op).eval k := by
  rw [resolve, Consultation.eval_bind]
  cases (Lock.check s r op ((bundles.rulesFor r.bundle).adminPermissionFor r)).eval k with
  | none => rfl
  | some d => rfl

/-- Where the lock does not stand in the way, anything but a view asks for the admin permission. -/
theorem eval_lock {p : String} (hop : op ≠ .view) (hopen : op = .delete → r.locked = false) :
    (Lock.check s r op p).eval k =
      if k.holds s.roles p then some (Decision.allowed (Lock.holdsReason p)).perPermissions
      else none := by
  have hlock : ¬ (op == .delete && r.locked) = true := by
    simpa using fun h => hopen h
  rw [Lock.check, if_neg hlock]
  show (if op == .view then _ else _ : Consultation (Option Decision)).eval k = _
  rw [if_neg (by simpa using hop), Consultation.eval_bind]
  show (if k.holds s.roles p then _ else _ : Consultation (Option Decision)).eval k = _
  split <;> rfl

/-- What neither the lock nor the admin permission settles. -/
theorem of_eval_lock_eq_none {p : String} (h : (Lock.check s r op p).eval k = none) :
    (op = .delete → r.locked = false) ∧ (op ≠ .view → k.holds s.roles p = false) := by
  have hopen : op = .delete → r.locked = false := by
    rintro rfl
    cases hlocked : r.locked with
    | false => rfl
    | true => simp [Lock.check, hlocked] at h
  refine ⟨hopen, fun hop => ?_⟩
  rw [eval_lock hop hopen] at h
  cases hadmin : k.holds s.roles p with
  | false => rfl
  | true => simp [hadmin] at h

theorem LeftToGrants.eval_lock {rules : BundleRules} (h : LeftToGrants k rules s r op) :
    (Lock.check s r op (rules.adminPermissionFor r)).eval k = none := by
  by_cases hop : op = .view
  · subst hop
    rfl
  · rw [Resolver.eval_lock hop h.unlocked, h.notAdmin hop]
    rfl

/-- Past the lock and the gate, a bundle without grant fields leaves the request open, and one with
grant fields asks them. -/
theorem LeftToGrants.applyRules_eq {rules : BundleRules} (h : LeftToGrants k rules s r op) :
    applyRules rules s r op =
      if rules.usesGrants then checkGrants s r op
      else pure (Decision.neutral (noRulesReason op r.bundle)) := by
  have hgate : ¬ (op == .view && !rules.viewPermissions.isEmpty) = true := by
    simp only [Bool.and_eq_true, beq_iff_eq, Bool.not_eq_true', List.isEmpty_eq_false_iff, not_and,
      ne_eq, Decidable.not_not]
    exact h.notGated
  rw [applyRules, if_neg hgate]

theorem LeftToGrants.eval_resolve {bundles : BundleMap}
    (h : LeftToGrants k (bundles.rulesFor r.bundle) s r op) :
    (resolve bundles s r op).eval k =
      if (bundles.rulesFor r.bundle).usesGrants then (checkGrants s r op).eval k
      else Decision.neutral (noRulesReason op r.bundle) := by
  rw [Resolver.eval_resolve, h.eval_lock]
  show (applyRules (bundles.rulesFor r.bundle) s r op).eval k = _
  rw [h.applyRules_eq]
  split <;> rfl

/-- **A ruling tells the decision.** -/
theorem Ruling.eval_eq {bundles : BundleMap} {d : Decision}
    (h : Ruling k (bundles.rulesFor r.bundle) s r op d) : (resolve bundles s r op).eval k = d := by
  cases h with
  | locked hlocked =>
    rw [eval_resolve]
    simp [Lock.check, hlocked]
  | admin hop hopen hadmin => rw [eval_resolve, eval_lock hop hopen, if_pos hadmin]
  | viewHeld hgated hall =>
    rw [eval_resolve]
    show (applyRules (bundles.rulesFor r.bundle) s r .view).eval k = _
    rw [applyRules, if_pos (by simpa using hgated), eval_checkViewPermissions, hall]
  | viewMissing hgated hmissing =>
    rw [eval_resolve]
    show (applyRules (bundles.rulesFor r.bundle) s r .view).eval k = _
    rw [applyRules, if_pos (by simpa using hgated), eval_checkViewPermissions, hmissing]
  | noGrants hleft huses hnone =>
    rw [hleft.eval_resolve, if_pos huses, eval_checkGrants, hnone]
    rfl
  | notCovered hleft huses hsome =>
    rw [hleft.eval_resolve, if_pos huses, eval_checkGrants, if_neg (by simpa using hsome)]
    rfl
  | granted hleft huses hop hfits =>
    have hsome : k.grantsFor r ≠ [] := fun hnil => by rw [hnil] at hfits; simp at hfits
    rw [hleft.eval_resolve, if_pos huses, eval_checkGrants, if_neg (by simpa using hsome),
      if_neg (by simpa using hop), eval_evaluate, hfits]
  | refused hleft huses hop hsome hnone =>
    rw [hleft.eval_resolve, if_pos huses, eval_checkGrants, if_neg (by simpa using hsome),
      if_neg (by simpa using hop), eval_evaluate, hnone]
  | noRules hleft huses => rw [hleft.eval_resolve, if_neg (by simp [huses])]

/-- A request left to the grants has a ruling. -/
theorem LeftToGrants.exists_ruling {rules : BundleRules} (h : LeftToGrants k rules s r op) :
    ∃ d, Ruling k rules s r op d := by
  cases huses : rules.usesGrants with
  | false => exact ⟨_, .noRules h huses⟩
  | true =>
    by_cases hnone : k.grantsFor r = []
    · exact ⟨_, .noGrants h huses hnone⟩
    · by_cases hop : op = .create
      · subst hop
        exact ⟨_, .notCovered h huses hnone⟩
      · cases hfits : (k.grantsFor r).find? (k.fits s op) with
        | none => exact ⟨_, .refused h huses hop hnone hfits⟩
        | some g => exact ⟨_, .granted h huses hop hfits⟩

theorem exists_ruling (k : Collaborators) (rules : BundleRules) (s : Subject) (r : Resource)
    (op : Operation) : ∃ d, Ruling k rules s r op d := by
  by_cases hview : op = .view
  · subst hview
    by_cases hgated : rules.viewPermissions = []
    · exact LeftToGrants.exists_ruling ⟨nofun, fun h => absurd rfl h, fun _ => hgated⟩
    · cases hfind : (rules.viewPermissionsFor r).find?
          (fun p => !k.holds s.roles.withoutAdministrator p) with
      | none => exact ⟨_, .viewHeld hgated hfind⟩
      | some p => exact ⟨_, .viewMissing hgated hfind⟩
  · by_cases hlocked : op = .delete ∧ r.locked = true
    · obtain ⟨rfl, hlocked⟩ := hlocked
      exact ⟨_, .locked hlocked⟩
    · have hopen : op = .delete → r.locked = false := fun hop => by
        simpa [hop] using hlocked
      cases hadmin : k.holds s.roles (rules.adminPermissionFor r) with
      | true => exact ⟨_, .admin hview hopen hadmin⟩
      | false => exact LeftToGrants.exists_ruling ⟨hopen, fun _ => hadmin, fun h => absurd h hview⟩

/-- **The decision has a ruling.** -/
theorem ruling_eval (k : Collaborators) (bundles : BundleMap) (s : Subject) (r : Resource)
    (op : Operation) :
    Ruling k (bundles.rulesFor r.bundle) s r op ((resolve bundles s r op).eval k) := by
  obtain ⟨d, h⟩ := exists_ruling k (bundles.rulesFor r.bundle) s r op
  rwa [h.eval_eq]

end Resolver

/-! ## The stock permissions -/

namespace StockPermissions

variable {k : Collaborators} {s : Subject} {r : Resource} {op : Operation}

/-- The ways through the stock permissions. -/
inductive Ruling (k : Collaborators) (s : Subject) (r : Resource) (op : Operation) :
    Decision → Prop
  /-- The permission for all resources of the bundle is held. -/
  | any (hany : k.holds s.roles (anyPermission r.bundle op) = true) :
      Ruling k s r op
        (Decision.allowed (Lock.holdsReason (anyPermission r.bundle op))).perPermissions
  /-- It is not, and owners have no permission of their own. -/
  | lacksAny (hany : k.holds s.roles (anyPermission r.bundle op) = false)
      (hown : ownPermission? r.bundle op = none) :
      Ruling k s r op
        (Decision.neutral ("subject lacks '" ++ anyPermission r.bundle op ++ "'")).perPermissions
  /-- The subject owns the resource and holds the permission for owners. -/
  | owner {own : String} (hany : k.holds s.roles (anyPermission r.bundle op) = false)
      (hown : ownPermission? r.bundle op = some own) (howns : r.isOwnedBy s.id = true)
      (hholds : k.holds s.roles own = true) :
      Ruling k s r op
        (((Decision.allowed ("subject owns resource and has '" ++ own ++ "'")).perPermissions
          |>.withContext Decision.subjectContext).withTag r.cacheTag)
  /-- Neither permission helps. -/
  | lacksBoth {own : String} (hany : k.holds s.roles (anyPermission r.bundle op) = false)
      (hown : ownPermission? r.bundle op = some own)
      (hnot : r.isOwnedBy s.id = true → k.holds s.roles own = false) :
      Ruling k s r op
        (((Decision.neutral ("subject lacks '" ++ anyPermission r.bundle op ++ "' and '" ++ own
          ++ "'")).perPermissions |>.withContext Decision.subjectContext).withTag r.cacheTag)

theorem eval_ownerHolds (own : String) :
    (ownerHolds s r own).eval k = (r.isOwnedBy s.id && k.holds s.roles own) := by
  unfold ownerHolds
  cases r.isOwnedBy s.id <;> rfl

/-- **A ruling tells the decision.** -/
theorem Ruling.eval_eq {d : Decision} (h : Ruling k s r op d) : (check s r op).eval k = d := by
  rw [check, Consultation.eval_bind]
  show (if k.holds s.roles (anyPermission r.bundle op) then _ else _ : Consultation Decision).eval
    k = d
  cases h with
  | any hany => rw [if_pos hany]; rfl
  | lacksAny hany hown => rw [if_neg (by simp [hany])]; simp only [hown]; rfl
  | owner hany hown howns hholds =>
    rw [if_neg (by simp [hany])]
    simp only [hown, Consultation.eval_bind, eval_ownerHolds, howns, hholds]
    rfl
  | @lacksBoth own hany hown hnot =>
    have hcond : (r.isOwnedBy s.id && k.holds s.roles own) = false := by
      simpa using hnot
    rw [if_neg (by simp [hany])]
    simp only [hown, Consultation.eval_bind, eval_ownerHolds, hcond]
    rfl

theorem exists_ruling (k : Collaborators) (s : Subject) (r : Resource) (op : Operation) :
    ∃ d, Ruling k s r op d := by
  cases hany : k.holds s.roles (anyPermission r.bundle op) with
  | true => exact ⟨_, .any hany⟩
  | false =>
    cases hown : ownPermission? r.bundle op with
    | none => exact ⟨_, .lacksAny hany hown⟩
    | some own =>
      by_cases hholds : r.isOwnedBy s.id = true ∧ k.holds s.roles own = true
      · exact ⟨_, .owner hany hown hholds.1 hholds.2⟩
      · exact ⟨_, .lacksBoth hany hown fun howns => by simpa [howns] using hholds⟩

/-- **The decision has a ruling.** -/
theorem ruling_eval (k : Collaborators) (s : Subject) (r : Resource) (op : Operation) :
    Ruling k s r op ((check s r op).eval k) := by
  obtain ⟨d, h⟩ := exists_ruling k s r op
  rwa [h.eval_eq]

end StockPermissions

/-! ## The chain -/

namespace Chain

variable {k : Collaborators} {c : Chain} {s : Subject} {r : Resource} {op : Operation}

/-- The ways through the chain. -/
inductive Ruling (k : Collaborators) (c : Chain) (s : Subject) (r : Resource) (op : Operation) :
    Decision → Prop
  /-- The resolver has the last word. -/
  | alone {d : Decision} (hd : Resolver.Ruling k (c.bundles.rulesFor r.bundle) s r op d)
      (hstop : c.stock = false ∨ isFinal d r op = true) : Ruling k c s r op d
  /-- The stock permissions are asked as well. -/
  | joined {d e : Decision} (hd : Resolver.Ruling k (c.bundles.rulesFor r.bundle) s r op d)
      (hstock : c.stock = true) (hopen : isFinal d r op = false)
      (he : StockPermissions.Ruling k s r op e) : Ruling k c s r op (join d e)

/-- Without stock permissions the chain is the resolver. -/
theorem check_of_not_stock (bundles : BundleMap) :
    ({ bundles, stock := false } : Chain).check s r op = Resolver.resolve bundles s r op :=
  bind_pure (Resolver.resolve bundles s r op)

/-- **A ruling tells the decision.** -/
theorem Ruling.eval_eq {d : Decision} (h : Ruling k c s r op d) : (c.check s r op).eval k = d := by
  rw [check, Consultation.eval_bind]
  cases h with
  | alone hd hstop =>
    rw [hd.eval_eq, if_pos (by simpa using hstop)]
    rfl
  | joined hd hstock hopen he =>
    rw [hd.eval_eq, if_neg (by simp [hstock, hopen]), Consultation.eval_bind, he.eval_eq]
    rfl

/-- A final decision of the resolver is that of the chain, with stock permissions or without. -/
theorem eval_of_final {d : Decision}
    (hd : Resolver.Ruling k (c.bundles.rulesFor r.bundle) s r op d) (hfinal : isFinal d r op = true) :
    (c.check s r op).eval k = d :=
  Ruling.eval_eq (.alone hd (Or.inr hfinal))

/-- **The decision has a ruling.** -/
theorem ruling_eval (k : Collaborators) (c : Chain) (s : Subject) (r : Resource) (op : Operation) :
    Ruling k c s r op ((c.check s r op).eval k) := by
  have hd := Resolver.ruling_eval k c.bundles s r op
  have he := StockPermissions.ruling_eval k s r op
  by_cases hstop : c.stock = false ∨ isFinal ((Resolver.resolve c.bundles s r op).eval k) r op = true
  · have h : Ruling k c s r op _ := .alone hd hstop
    rwa [h.eval_eq]
  · have h : Ruling k c s r op _ :=
      .joined hd (by simpa using fun h => hstop (Or.inl h)) (by simpa using fun h => hstop (Or.inr h))
        he
    rwa [h.eval_eq]

end Chain

end AccessControl
