import AccessControl.Proofs.Metadata
import AccessControl.Proofs.Rulings

/-!
# Cache contexts

A decision names the contexts that it varies by, and a cache serves it to everyone who agrees with
the first subject on each of them (`AgreeOn`). That is safe when agreement on the contexts *named*
already forces the same verdict, and naming one too few cannot be seen in the decision itself: it is
a statement about two requests.

Within a layer nothing is missing but one thing. What a ruling of the resolver rests on is shared by
whoever agrees on its contexts, **except for the answer about the admin permission**, which is asked
for before every change and recorded only if it is yes. Hence the dichotomy
`Resolver.Ruling.transfer_or_admin`: the second subject gets the same ruling, or is let through by an
admin permission that the first does not hold.

For the whole chain the second case is harmless (`Chain.outcome_check_eq_of_agreeOn`). Where the
first subject is let through anyway the verdict is the same, and where not, the stock permissions are
asked and record what was missing. The resolver alone has no such second layer, and there the
second case is a difference in the verdict unless the first subject is let through by a grant
(`Resolver.outcome_resolve_eq_iff`).
-/

set_option autoImplicit false

namespace AccessControl

/-! ## Agreement -/

/-- What two subjects share who agree on a context: the answers about their permissions, with all
roles and without `administrator`; the groups they count as members of; the account. -/
structure AgreeOn (k : Collaborators) (s₁ s₂ : Subject) (context : String) : Prop where
  permissions : context = Decision.permissionsContext → ∀ p,
    k.holds s₁.roles p = k.holds s₂.roles p ∧
      k.holds s₁.roles.withoutAdministrator p = k.holds s₂.roles.withoutAdministrator p
  groups : ∀ op, context = Decision.grantsContext op → ∀ group,
    k.places s₁ group = k.places s₂ group
  account : context = Decision.subjectContext → s₁.id = s₂.id

variable {k : Collaborators} {rules : BundleRules} {s₁ s₂ : Subject} {r : Resource}
  {op : Operation} {d e : Decision}

/-- Whom a grant fits hangs on the groups alone. -/
theorem Collaborators.fits_congr (h : ∀ group, k.places s₁ group = k.places s₂ group) :
    k.fits s₁ op = k.fits s₂ op := by
  funext g
  unfold Collaborators.fits
  cases g.target with
  | none => rfl
  | some group => simp only [Option.any_some, h group]

namespace Resolver

theorem LeftToGrants.transfer (h : LeftToGrants k rules s₁ r op)
    (hadmin : op ≠ .view → (op = .delete → r.locked = false) →
      k.holds s₁.roles (rules.adminPermissionFor r) =
        k.holds s₂.roles (rules.adminPermissionFor r)) :
    LeftToGrants k rules s₂ r op :=
  ⟨h.unlocked, fun hop => hadmin hop h.unlocked ▸ h.notAdmin hop, h.notGated⟩

/-- **A ruling is shared** by those who agree on its contexts and, where it is asked for, on the
admin permission. -/
theorem Ruling.transfer (h : Ruling k rules s₁ r op d)
    (hadmin : op ≠ .view → (op = .delete → r.locked = false) →
      k.holds s₁.roles (rules.adminPermissionFor r) =
        k.holds s₂.roles (rules.adminPermissionFor r))
    (hagree : ∀ context ∈ d.contexts, AgreeOn k s₁ s₂ context) : Ruling k rules s₂ r op d := by
  cases h with
  | locked hlocked => exact .locked hlocked
  | admin hop hopen hholds => exact .admin hop hopen (hadmin hop hopen ▸ hholds)
  | viewHeld hgated hall =>
    have hp := (hagree Decision.permissionsContext (by simp)).permissions rfl
    exact .viewHeld hgated (by simpa only [(hp _).2] using hall)
  | viewMissing hgated hmissing =>
    have hp := (hagree Decision.permissionsContext (by simp)).permissions rfl
    exact .viewMissing hgated (by simpa only [(hp _).2] using hmissing)
  | noGrants hleft huses hnone => exact .noGrants (hleft.transfer hadmin) huses hnone
  | notCovered hleft huses hsome => exact .notCovered (hleft.transfer hadmin) huses hsome
  | granted hleft huses hop hfits =>
    have hg := (hagree (Decision.grantsContext op) (by simp [byGrants])).groups op rfl
    exact .granted (hleft.transfer hadmin) huses hop (Collaborators.fits_congr hg ▸ hfits)
  | refused hleft huses hop hsome hnone =>
    have hg := (hagree (Decision.grantsContext op) (by simp [byGrants])).groups op rfl
    exact .refused (hleft.transfer hadmin) huses hop hsome (Collaborators.fits_congr hg ▸ hnone)
  | noRules hleft huses => exact .noRules (hleft.transfer hadmin) huses

/-- A request that is not a view and that the lock lets pass records the permissions context or
belongs to someone without the admin permission. -/
theorem Ruling.permissions_mem_or_notAdmin (h : Ruling k rules s₁ r op d) (hop : op ≠ .view)
    (hopen : op = .delete → r.locked = false) :
    Decision.permissionsContext ∈ d.contexts ∨
      k.holds s₁.roles (rules.adminPermissionFor r) = false := by
  cases h with
  | locked hlocked => simp [hopen rfl] at hlocked
  | admin _ _ _ => exact Or.inl (by simp)
  | viewHeld _ _ | viewMissing _ _ => exact absurd rfl hop
  | noGrants hleft _ _ | notCovered hleft _ _ | granted hleft _ _ _ | refused hleft _ _ _ _
  | noRules hleft _ => exact Or.inr (hleft.notAdmin hop)

/-- **The one thing that is not recorded.** Who agrees with the first subject on the contexts of a
ruling gets the same ruling, or holds an admin permission that the first subject does not. -/
theorem Ruling.transfer_or_admin (h : Ruling k rules s₁ r op d)
    (hagree : ∀ context ∈ d.contexts, AgreeOn k s₁ s₂ context) :
    Ruling k rules s₂ r op d ∨
      op ≠ .view ∧ (op = .delete → r.locked = false) ∧
        k.holds s₁.roles (rules.adminPermissionFor r) = false ∧
        k.holds s₂.roles (rules.adminPermissionFor r) = true := by
  by_cases hadmin : op ≠ .view → (op = .delete → r.locked = false) →
      k.holds s₁.roles (rules.adminPermissionFor r) =
        k.holds s₂.roles (rules.adminPermissionFor r)
  · exact Or.inl (h.transfer hadmin hagree)
  · -- The second subject differs, so the answer was not recorded, so it was no.
    simp only [Classical.not_imp] at hadmin
    obtain ⟨hop, hopen, hne⟩ := hadmin
    rcases h.permissions_mem_or_notAdmin hop hopen with hmem | hnot
    · exact absurd ((hagree _ hmem).permissions rfl _).1 hne
    · exact Or.inr ⟨hop, hopen, hnot, by simpa [hnot] using hne⟩

end Resolver

namespace StockPermissions

/-- The layer asks for permissions first, whatever comes of it. -/
theorem Ruling.permissions_mem (h : Ruling k s₁ r op e) :
    Decision.permissionsContext ∈ e.contexts := by
  cases h with
  | any _ | lacksAny _ _ | owner _ _ _ _ | lacksBoth _ _ _ => simp

/-- **A ruling is shared** by those who agree on its contexts: here everything is recorded. -/
theorem Ruling.transfer (h : Ruling k s₁ r op e)
    (hagree : ∀ context ∈ e.contexts, AgreeOn k s₁ s₂ context) : Ruling k s₂ r op e := by
  have hp := (hagree _ h.permissions_mem).permissions rfl
  cases h with
  | any hany => exact .any ((hp _).1 ▸ hany)
  | lacksAny hany hown => exact .lacksAny ((hp _).1 ▸ hany) hown
  | owner hany hown howns hholds =>
    have hid := (hagree Decision.subjectContext (by simp)).account rfl
    exact .owner ((hp _).1 ▸ hany) hown (hid ▸ howns) ((hp _).1 ▸ hholds)
  | lacksBoth hany hown hnot =>
    have hid := (hagree Decision.subjectContext (by simp)).account rfl
    refine .lacksBoth ((hp _).1 ▸ hany) hown fun howns => ?_
    rw [← (hp _).1]
    exact hnot (hid ▸ howns)

end StockPermissions

/-! ## A newsroom

Two colleagues in a group that may view and update the articles of the newsroom. One of them is an
administrator and holds the admin permission besides. What the two share is their groups, so they
agree on the context of a grant, whatever the operation, and disagree about permissions. -/

namespace Newsroom

def collaborators : Collaborators where
  holds roles permission := roles.contains .administrator && permission == "administer article"
  grantsFor _ :=
    [{ target := some ⟨1⟩, isPublic := false, view := true, update := true, delete := false }]
  isMember _ group := group == ⟨1⟩

def bundles : BundleMap := (∅ : BundleMap).insert "article" (.withGrantField "field_access")

def article : Resource := .plain ⟨7⟩ "article"

def editor : Subject := .account ⟨1⟩ ∅

def administrator : Subject := .account ⟨2⟩ ((∅ : RoleSet).insert .administrator)

theorem agreeOn_grantsContext (op : Operation) :
    AgreeOn collaborators editor administrator (Decision.grantsContext op) where
  permissions h := absurd h (Decision.grantsContext_ne_permissionsContext op)
  groups _ _ group := by
    have he : editor.isAnonymous = false := by decide
    have ha : administrator.isAnonymous = false := by decide
    rw [Collaborators.places, Collaborators.places, he, ha]
    rfl
  account h := absurd h (Decision.grantsContext_ne_subjectContext op)

/-- They agree on a decision that records a context of grants and no other. -/
theorem agreeOn_of_contexts_toList (op : Operation)
    (h : d.contexts.toList = [Decision.grantsContext op]) :
    ∀ context ∈ d.contexts, AgreeOn collaborators editor administrator context := by
  intro context hc
  rw [← Std.ExtTreeSet.mem_toList, h, List.mem_singleton] at hc
  exact hc ▸ agreeOn_grantsContext op

end Newsroom

/-! ## The chain -/

namespace Chain

/-- **The contexts of the chain suffice.** Whoever agrees with the first subject on the contexts of
the decision gets the same verdict. -/
theorem outcome_check_eq_of_agreeOn (k : Collaborators) (bundles : BundleMap) (s₁ s₂ : Subject)
    (r : Resource) (op : Operation)
    (hagree : ∀ context ∈ ((({ bundles, stock := true } : Chain).check s₁ r op).eval k).contexts,
      AgreeOn k s₁ s₂ context) :
    ((({ bundles, stock := true } : Chain).check s₂ r op).eval k).outcome =
      ((({ bundles, stock := true } : Chain).check s₁ r op).eval k).outcome := by
  have h := ruling_eval k { bundles, stock := true } s₁ r op
  generalize (({ bundles, stock := true } : Chain).check s₁ r op).eval k = final at h hagree ⊢
  cases h with
  | alone hd hstop =>
    rcases hd.transfer_or_admin hagree with hd' | ⟨hop, hopen, -, hadmin⟩
    · rw [Ruling.eval_eq (.alone hd' hstop)]
    · -- The second subject is let through for another reason than the first, but both are.
      rw [eval_of_final (.admin hop hopen hadmin) rfl]
      have hfinal := hstop.resolve_left (by simp)
      exact ((isFinal_iff_of_change hop hopen).mp hfinal).symm
  | joined hd hstock hopen he =>
    have hp := (hagree Decision.permissionsContext
      (mem_contexts_join.mpr (Or.inr he.permissions_mem))).permissions rfl
    have hd' := hd.transfer (fun _ _ => (hp _).1)
      fun context hc => hagree context (mem_contexts_join.mpr (Or.inl hc))
    have he' := he.transfer
      fun context hc => hagree context (mem_contexts_join.mpr (Or.inr hc))
    rw [Ruling.eval_eq (.joined hd' hstock hopen he')]

/-- The editor may update the article by the grant, the administrator by the admin permission, of
which the decision about the editor says nothing. -/
theorem outcome_check_administrator_eq_editor :
    (∀ context ∈ ((({ bundles := Newsroom.bundles, stock := true } : Chain).check
        Newsroom.editor Newsroom.article .update).eval Newsroom.collaborators).contexts,
      AgreeOn Newsroom.collaborators Newsroom.editor Newsroom.administrator context) ∧
    ((({ bundles := Newsroom.bundles, stock := true } : Chain).check
        Newsroom.administrator Newsroom.article .update).eval Newsroom.collaborators).outcome =
      ((({ bundles := Newsroom.bundles, stock := true } : Chain).check
        Newsroom.editor Newsroom.article .update).eval Newsroom.collaborators).outcome := by
  refine ⟨?hagree, outcome_check_eq_of_agreeOn _ _ _ _ _ _ ?hagree⟩
  exact Newsroom.agreeOn_of_contexts_toList .update (by decide)

end Chain

/-! ## The resolver alone -/

namespace Resolver

/-- **The contexts of the resolver do not suffice**, and this is when they do. Whoever agrees with
the first subject on the contexts of the decision gets the same verdict if and only if the admin
permission is not asked for, the first subject is let through, or the second one does not hold it.
The decision is that of a chain without stock permissions. -/
theorem outcome_resolve_eq_iff (k : Collaborators) (bundles : BundleMap) (s₁ s₂ : Subject)
    (r : Resource) (op : Operation)
    (hagree : ∀ context ∈ ((resolve bundles s₁ r op).eval k).contexts, AgreeOn k s₁ s₂ context) :
    (∀ s, ({ bundles, stock := false } : Chain).check s r op = resolve bundles s r op) ∧
    (((resolve bundles s₂ r op).eval k).outcome = ((resolve bundles s₁ r op).eval k).outcome ↔
      op = .view ∨ (op = .delete ∧ r.locked = true) ∨
        ((resolve bundles s₁ r op).eval k).outcome = .allowed ∨
        k.holds s₂.roles ((bundles.rulesFor r.bundle).adminPermissionFor r) = false) := by
  refine ⟨fun s => Chain.check_of_not_stock bundles, ?_⟩
  have h := ruling_eval k bundles s₁ r op
  generalize (resolve bundles s₁ r op).eval k = d at h hagree ⊢
  constructor
  · -- Were none of the four the case, the second subject would be let through.
    intro heq
    by_cases hview : op = .view
    · exact Or.inl hview
    by_cases hlocked : op = .delete ∧ r.locked = true
    · exact Or.inr (Or.inl hlocked)
    cases hadmin : k.holds s₂.roles ((bundles.rulesFor r.bundle).adminPermissionFor r) with
    | false => exact Or.inr (Or.inr (Or.inr rfl))
    | true =>
      have hopen : op = .delete → r.locked = false := fun hop => by simpa [hop] using hlocked
      rw [Ruling.eval_eq (.admin hview hopen hadmin)] at heq
      exact Or.inr (Or.inr (Or.inl heq.symm))
  · intro hcases
    rcases h.transfer_or_admin hagree with h' | ⟨hop, hopen, -, hadmin⟩
    · rw [h'.eval_eq]
    · rw [Ruling.eval_eq (.admin hop hopen hadmin)]
      rcases hcases with hview | ⟨hdelete, hlocked⟩ | hallowed | hnot
      · exact absurd hview hop
      · simp [hopen hdelete] at hlocked
      · exact hallowed.symm
      · simp [hadmin] at hnot

theorem outcome_resolve_administrator_eq_editor :
    (∀ context ∈ ((resolve Newsroom.bundles Newsroom.editor Newsroom.article .update).eval
        Newsroom.collaborators).contexts,
      AgreeOn Newsroom.collaborators Newsroom.editor Newsroom.administrator context) ∧
    ((resolve Newsroom.bundles Newsroom.administrator Newsroom.article .update).eval
        Newsroom.collaborators).outcome =
      ((resolve Newsroom.bundles Newsroom.editor Newsroom.article .update).eval
        Newsroom.collaborators).outcome := by
  refine ⟨?hagree, (outcome_resolve_eq_iff _ _ _ _ _ _ ?hagree).2.mpr ?_⟩
  · exact Newsroom.agreeOn_of_contexts_toList .update (by decide)
  · exact Or.inr (Or.inr (Or.inl (by decide)))

/-- The refusal of a deletion names the grants and nothing else, and the administrator, with the
same groups as the editor, may delete. -/
theorem administrator_allowed_where_editor_refused :
    (∀ context ∈ ((resolve Newsroom.bundles Newsroom.editor Newsroom.article .delete).eval
        Newsroom.collaborators).contexts,
      AgreeOn Newsroom.collaborators Newsroom.editor Newsroom.administrator context) ∧
    ((resolve Newsroom.bundles Newsroom.editor Newsroom.article .delete).eval
      Newsroom.collaborators).outcome = .forbidden ∧
    ((resolve Newsroom.bundles Newsroom.administrator Newsroom.article .delete).eval
      Newsroom.collaborators).outcome = .allowed := by
  refine ⟨?_, by decide, by decide⟩
  exact Newsroom.agreeOn_of_contexts_toList .delete (by decide)

end Resolver

end AccessControl
