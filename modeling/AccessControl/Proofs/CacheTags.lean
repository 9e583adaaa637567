import AccessControl.Proofs.CacheContexts

/-!
# Cache tags

A cached decision is dropped when the resource that it is tagged with is saved. What may be wrong
with a tag is that it is missing, and then a decision outlives what it was reached from. So the
question is what a decision *without* the tag of its resource can have been reached from.

Grants and owners are safe. Every ruling that has looked at either carries the tag, and every other
one is a ruling for any grants and any owner (`Resolver.Ruling.of_untagged`,
`StockPermissions.Ruling.of_untagged`); joining two decisions loses no tag. Hence an untagged
decision is the same, reason, contexts and tags included, whatever the resource is granted and
whoever owns it (`Chain.check_eq_of_untagged`).
-/

set_option autoImplicit false

namespace AccessControl

variable {k : Collaborators} {c : Chain} {rules : BundleRules} {s : Subject} {r : Resource}
  {op : Operation} {d e : Decision}

/-! ## Changing grants and owner

A permission that a bundle asks for is expanded with the number and the bundle of the resource, so
it is still the same permission for another owner. -/

theorem BundleRules.adminPermissionFor_owner (rules : BundleRules) (r : Resource)
    (owner : Option SubjectId) :
    rules.adminPermissionFor { r with owner } = rules.adminPermissionFor r := by
  unfold adminPermissionFor
  cases rules.adminPermission with
  | none => rfl
  | some template => rfl

namespace Resolver

theorem LeftToGrants.of_edited (h : LeftToGrants k rules s r op)
    (grantsFor : Resource → List Grant) (owner : Option SubjectId) :
    LeftToGrants { k with grantsFor } rules s { r with owner } op where
  unlocked := h.unlocked
  notAdmin hop := by
    rw [BundleRules.adminPermissionFor_owner]
    exact h.notAdmin hop
  notGated := h.notGated

/-- A ruling without the tag of the resource has not looked at the grants. -/
theorem Ruling.of_untagged (h : Ruling k rules s r op d) (htag : r.cacheTag ∉ d.tags)
    (grantsFor : Resource → List Grant) (owner : Option SubjectId) :
    Ruling { k with grantsFor } rules s { r with owner } op d := by
  cases h with
  | admin hop hopen hadmin =>
    rw [← BundleRules.adminPermissionFor_owner rules r owner] at hadmin ⊢
    exact .admin hop hopen hadmin
  | viewHeld hgated hall => exact .viewHeld hgated hall
  | viewMissing hgated hmissing => exact .viewMissing hgated hmissing
  | noRules hleft huses => exact .noRules (hleft.of_edited grantsFor owner) huses
  -- The lock, and whatever asks for the grants, leaves the tag.
  | locked _ | noGrants _ _ _ | notCovered _ _ _ => exact absurd (by simp) htag
  | granted _ _ _ _ | refused _ _ _ _ _ => exact absurd (by simp [byGrants]) htag

end Resolver

namespace StockPermissions

/-- A ruling without the tag of the resource has not looked at the owner. -/
theorem Ruling.of_untagged (h : Ruling k s r op e) (htag : r.cacheTag ∉ e.tags)
    (grantsFor : Resource → List Grant) (owner : Option SubjectId) :
    Ruling { k with grantsFor } s { r with owner } op e := by
  cases h with
  | any hany => exact .any hany
  | lacksAny hany hown => exact .lacksAny hany hown
  | owner _ _ _ _ | lacksBoth _ _ _ => exact absurd (by simp) htag

end StockPermissions

/-! ## The chain -/

namespace Chain

theorem Ruling.of_untagged (h : Ruling k c s r op d) (htag : r.cacheTag ∉ d.tags)
    (grantsFor : Resource → List Grant) (owner : Option SubjectId) :
    Ruling { k with grantsFor } c s { r with owner } op d := by
  cases h with
  | alone hd hstop => exact .alone (hd.of_untagged htag grantsFor owner) hstop
  | joined hd hstock hopen he =>
    rw [mem_tags_join, not_or] at htag
    obtain ⟨htagd, htage⟩ := htag
    exact .joined (hd.of_untagged htagd grantsFor owner) hstock hopen
      (he.of_untagged htage grantsFor owner)

/-- **An untagged decision depends on neither grants nor owner.** It is the same for any other
content of the store and any other owner. -/
theorem check_eq_of_untagged (k : Collaborators) (c : Chain) (s : Subject) (r : Resource)
    (op : Operation) (grantsFor : Resource → List Grant) (owner : Option SubjectId)
    (htag : r.cacheTag ∉ ((c.check s r op).eval k).tags) :
    (c.check s { r with owner } op).eval { k with grantsFor } = (c.check s r op).eval k := by
  have h := ruling_eval k c s r op
  exact (h.of_untagged htag grantsFor owner).eval_eq

/-- The editor of the newsroom has no say about a page, also as its owner and whatever is granted. -/
theorem page_eq_of_untagged :
    (Resource.plain ⟨1⟩ "page").cacheTag ∉
      ((({ bundles := Newsroom.bundles, stock := true } : Chain).check Newsroom.editor
        (.plain ⟨1⟩ "page") .view).eval Newsroom.collaborators).tags ∧
    (({ bundles := Newsroom.bundles, stock := true } : Chain).check Newsroom.editor
        { Resource.plain ⟨1⟩ "page" with owner := some ⟨1⟩ } .view).eval
        { Newsroom.collaborators with grantsFor := fun _ => [] } =
      (({ bundles := Newsroom.bundles, stock := true } : Chain).check Newsroom.editor
        (.plain ⟨1⟩ "page") .view).eval Newsroom.collaborators := by
  refine ⟨?htag, check_eq_of_untagged _ _ _ _ _ _ _ ?htag⟩
  decide

end Chain

/-! ## Changing the lock

For everything but a deletion the lock is one more thing that an untagged decision has not looked at:
the collaborator that lists the grants is handed the resource as it is, lock included, and nobody else
sees it. -/

theorem BundleRules.adminPermissionFor_locked (rules : BundleRules) (r : Resource) (locked : Bool) :
    rules.adminPermissionFor { r with locked } = rules.adminPermissionFor r := by
  unfold adminPermissionFor
  cases rules.adminPermission with
  | none => rfl
  | some template => rfl

namespace Resolver

theorem LeftToGrants.relocked (h : LeftToGrants k rules s r op) (hop : op ≠ .delete)
    (locked : Bool) : LeftToGrants k rules s { r with locked } op where
  unlocked hdelete := absurd hdelete hop
  notAdmin hview := by
    rw [BundleRules.adminPermissionFor_locked]
    exact h.notAdmin hview
  notGated := h.notGated

theorem Ruling.relocked (h : Ruling k rules s r op d) (hop : op ≠ .delete)
    (htag : r.cacheTag ∉ d.tags) (locked : Bool) : Ruling k rules s { r with locked } op d := by
  cases h with
  | locked _ => exact absurd rfl hop
  | admin hview _ hadmin =>
    rw [← BundleRules.adminPermissionFor_locked rules r locked] at hadmin ⊢
    exact .admin hview (fun hdelete => absurd hdelete hop) hadmin
  | viewHeld hgated hall => exact .viewHeld hgated hall
  | viewMissing hgated hmissing => exact .viewMissing hgated hmissing
  | noRules hleft huses => exact .noRules (hleft.relocked hop locked) huses
  | noGrants _ _ _ | notCovered _ _ _ => exact absurd (by simp) htag
  | granted _ _ _ _ | refused _ _ _ _ _ => exact absurd (by simp [byGrants]) htag

/-- A deletion that the lock does not stop is tagged as soon as the grants are asked for, and by
nothing else. -/
theorem Ruling.tag_mem_iff_of_delete (h : Ruling k rules s r .delete d) (hopen : r.locked = false) :
    r.cacheTag ∈ d.tags ↔
      k.holds s.roles (rules.adminPermissionFor r) = false ∧ rules.usesGrants = true := by
  cases h with
  | locked hlocked => simp [hopen] at hlocked
  | admin _ _ hadmin => simp [hadmin]
  | noGrants hleft huses _ => simp [hleft.notAdmin, huses]
  | granted hleft huses _ _ => simp [hleft.notAdmin, huses, byGrants]
  | refused hleft huses _ _ _ => simp [hleft.notAdmin, huses, byGrants]
  | noRules hleft huses => simp [huses]

end Resolver

namespace StockPermissions

/-- This layer does not know of locks. -/
theorem Ruling.relocked (h : Ruling k s r op e) (locked : Bool) :
    Ruling k s { r with locked } op e := by
  cases h with
  | any hany => exact .any hany
  | lacksAny hany hown => exact .lacksAny hany hown
  | owner hany hown howns hholds => exact .owner hany hown howns hholds
  | lacksBoth hany hown hnot => exact .lacksBoth hany hown hnot

/-- About a deletion, the layer looks at the owner unless the permission for the bundle is held. -/
theorem Ruling.tag_mem_iff_of_delete (h : Ruling k s r .delete e) :
    r.cacheTag ∈ e.tags ↔ k.holds s.roles (anyPermission r.bundle .delete) = false := by
  cases h with
  | any hany => simp [hany]
  | lacksAny _ hown => simp [ownPermission?] at hown
  | owner hany _ _ _ | lacksBoth hany _ _ => simp [hany]

end StockPermissions

namespace Chain

theorem isFinal_relocked (hop : op ≠ .delete) (locked : Bool) :
    isFinal d { r with locked } op = isFinal d r op := by
  cases op with
  | delete => exact absurd rfl hop
  | view | update | create => rfl

theorem Ruling.relocked (h : Ruling k c s r op d) (hop : op ≠ .delete)
    (htag : r.cacheTag ∉ d.tags) (locked : Bool) : Ruling k c s { r with locked } op d := by
  cases h with
  | alone hd hstop =>
    rw [← isFinal_relocked hop locked] at hstop
    exact .alone (hd.relocked hop htag locked) hstop
  | joined hd hstock hopen he =>
    rw [mem_tags_join, not_or] at htag
    rw [← isFinal_relocked hop locked] at hopen
    exact .joined (hd.relocked hop htag.1 locked) hstock hopen (he.relocked locked)

/-- A locked resource is not deleted, and the decision says so in its tags. -/
theorem eval_check_locked (hlocked : r.locked = true) :
    (c.check s r .delete).eval k = (Decision.forbidden Lock.reason).withTag r.cacheTag :=
  eval_of_final (.locked hlocked) (by simp [isFinal, isOverridable, hlocked])

/-- **When the deletion of an open resource is tagged**: the admin permission is not held, and then
the grants are asked for, or the owner is. -/
theorem tag_mem_unlocked_iff (hopen : r.locked = false) :
    r.cacheTag ∈ ((c.check s r .delete).eval k).tags ↔
      k.holds s.roles ((c.bundles.rulesFor r.bundle).adminPermissionFor r) = false ∧
        ((c.bundles.rulesFor r.bundle).usesGrants = true ∨
          c.stock = true ∧ k.holds s.roles ("delete any " ++ r.bundle ++ " content") = false) := by
  have h := ruling_eval k c s r .delete
  generalize (c.check s r .delete).eval k = final at h ⊢
  cases h with
  | alone hd hstop =>
    rw [hd.tag_mem_iff_of_delete hopen]
    rw [isFinal_iff_of_change (by simp) fun _ => hopen] at hstop
    constructor
    · rintro ⟨hadmin, huses⟩
      exact ⟨hadmin, Or.inl huses⟩
    · rintro ⟨hadmin, huses | ⟨hstock, -⟩⟩
      · exact ⟨hadmin, huses⟩
      · -- The stock permissions would have been asked had no grant allowed the deletion.
        have hallowed := hstop.resolve_left (by simp [hstock])
        cases hd with
        | admin _ _ hholds => simp [hadmin] at hholds
        | granted _ huses _ _ => exact ⟨hadmin, huses⟩
        | locked _ | noGrants _ _ _ | refused _ _ _ _ _ | noRules _ _ => exact nomatch hallowed
  | joined hd hstock hfinal he =>
    rw [← Bool.not_eq_true, isFinal_iff_of_change (by simp) fun _ => hopen] at hfinal
    have hnotAdmin : k.holds s.roles ((c.bundles.rulesFor r.bundle).adminPermissionFor r) = false := by
      cases hd with
      | locked hlocked => simp [hopen] at hlocked
      | admin _ _ _ => exact absurd rfl hfinal
      | noGrants hleft _ _ | granted hleft _ _ _ | refused hleft _ _ _ _ | noRules hleft _ =>
        exact hleft.notAdmin (by simp)
    rw [mem_tags_join, hd.tag_mem_iff_of_delete hopen, he.tag_mem_iff_of_delete]
    simp [hnotAdmin, hstock, StockPermissions.anyPermission]

/-- **Where the lock makes a difference, and which decisions say so.** If the verdict on the open
resource is not the verdict on the locked one, then the decision on the locked one is tagged. So is
the other, unless it is about a deletion that the admin permission allows, or about one that has gone
past neither grants nor owner. -/
theorem tags_of_locked_outcome_ne (k : Collaborators) (c : Chain) (s : Subject) (r : Resource)
    (op : Operation)
    (hne : ((c.check s { r with locked := false } op).eval k).outcome ≠
      ((c.check s { r with locked := true } op).eval k).outcome) :
    r.cacheTag ∈ ((c.check s { r with locked := true } op).eval k).tags ∧
    (r.cacheTag ∈ ((c.check s { r with locked := false } op).eval k).tags ↔
      op ≠ .delete ∨
        k.holds s.roles ((c.bundles.rulesFor r.bundle).adminPermissionFor r) = false ∧
          ((c.bundles.rulesFor r.bundle).usesGrants = true ∨
            c.stock = true ∧ k.holds s.roles ("delete any " ++ r.bundle ++ " content") = false)) := by
  by_cases hop : op = .delete
  · subst hop
    refine ⟨?_, ?_⟩
    · rw [eval_check_locked rfl]
      exact Decision.mem_tags_withTag.mpr (Or.inl rfl)
    · have h := tag_mem_unlocked_iff (k := k) (c := c) (s := s) (r := { r with locked := false }) rfl
      rw [BundleRules.adminPermissionFor_locked] at h
      refine h.trans ⟨Or.inr, fun hcases => hcases.resolve_left (by simp)⟩
  · -- An untagged decision would be that of the other resource as well.
    refine ⟨?_, iff_of_true ?_ (Or.inl hop)⟩
    · apply Classical.byContradiction
      intro htag
      have h := (ruling_eval k c s { r with locked := true } op).relocked hop htag false
      exact hne (congrArg Decision.outcome h.eval_eq)
    · apply Classical.byContradiction
      intro htag
      have h := (ruling_eval k c s { r with locked := false } op).relocked hop htag true
      exact hne (congrArg Decision.outcome h.eval_eq.symm)

/-- The editor may not delete a page, locked or not. That there is no rule against it has to do with
the owner, and so the open page tags it too. -/
theorem page_tagged_locked_or_not :
    ((({ bundles := Newsroom.bundles, stock := true } : Chain).check Newsroom.editor
        { Resource.plain ⟨1⟩ "page" with locked := false } .delete).eval
        Newsroom.collaborators).outcome ≠
      ((({ bundles := Newsroom.bundles, stock := true } : Chain).check Newsroom.editor
        { Resource.plain ⟨1⟩ "page" with locked := true } .delete).eval
        Newsroom.collaborators).outcome ∧
    (Resource.plain ⟨1⟩ "page").cacheTag ∈
      ((({ bundles := Newsroom.bundles, stock := true } : Chain).check Newsroom.editor
        { Resource.plain ⟨1⟩ "page" with locked := true } .delete).eval
        Newsroom.collaborators).tags ∧
    (Resource.plain ⟨1⟩ "page").cacheTag ∈
      ((({ bundles := Newsroom.bundles, stock := true } : Chain).check Newsroom.editor
        { Resource.plain ⟨1⟩ "page" with locked := false } .delete).eval
        Newsroom.collaborators).tags := by
  have h := tags_of_locked_outcome_ne Newsroom.collaborators
    { bundles := Newsroom.bundles, stock := true } Newsroom.editor (.plain ⟨1⟩ "page") .delete
    (by decide)
  refine ⟨by decide, h.1, h.2.mpr (Or.inr ⟨by decide, Or.inr ⟨rfl, by decide⟩⟩)⟩

/-- The administrator may delete the article while it is open and not once it is locked, and only the
refusal names the article. -/
theorem administrator_deletion_untagged :
    ((({ bundles := Newsroom.bundles, stock := true } : Chain).check Newsroom.administrator
      { Newsroom.article with locked := false } .delete).eval Newsroom.collaborators).outcome =
        .allowed ∧
    ((({ bundles := Newsroom.bundles, stock := true } : Chain).check Newsroom.administrator
      { Newsroom.article with locked := true } .delete).eval Newsroom.collaborators).outcome =
        .forbidden ∧
    Newsroom.article.cacheTag ∉
      ((({ bundles := Newsroom.bundles, stock := true } : Chain).check Newsroom.administrator
        { Newsroom.article with locked := false } .delete).eval Newsroom.collaborators).tags := by
  decide

end Chain

end AccessControl
