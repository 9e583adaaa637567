import AccessControl.Proofs.CacheContexts
import AccessControl.Proofs.Refusals

/-!
# What is asked, and on which occasion

Every consultation is faithful to those who respond (`Consultation.faithful`), whatever it asks, and
the chain comes to the same where each failure is dealt with by hand (`Chain.run_check`). So it does
not swallow a failure; what it *can* get wrong is to ask where it has no reason to, and then a
registry that is down refuses a request that nobody had to be asked about.

`Resolver.Occasion` and `StockPermissions.Occasion` list the questions that each layer may come to
ask, with what has to hold for each. Whatever the answers are, nothing else is asked
(`resolve_asksOnly`, `check_asksOnly`), and the rest is read off the lists: the deletion of a locked
resource has no occasion to ask at all, and a view none to ask about the admin permission.
-/

set_option autoImplicit false

namespace AccessControl

/-- Whether the grants of a resource are asked for, which is what the store is there for. -/
def Question.isAboutGrants : Question → Bool
  | .grants _ => true
  | .permission _ _ | .member _ _ => false

/-- The rules with another admin permission for one bundle. -/
def BundleMap.withAdminPermission (bundles : BundleMap) (bundle : String) (p : Option String) :
    BundleMap :=
  bundles.insert bundle { bundles.rulesFor bundle with adminPermission := p }

/-! ## The resolver -/

namespace Resolver

variable {s : Subject} {r : Resource} {op : Operation}

/-- The questions of the resolver. -/
inductive Occasion (rules : BundleRules) (s : Subject) (r : Resource) (op : Operation) :
    Question → Prop
  /-- Anything but a view asks for the admin permission, of all roles, unless the lock refuses. -/
  | admin (hop : op ≠ .view) (hopen : op = .delete → r.locked = false) :
      Occasion rules s r op (.permission s.roles (rules.adminPermissionFor r))
  /-- A view asks for the permissions that viewing takes, of the roles without `administrator`. -/
  | viewPermission {p : String} (hop : op = .view) (hp : p ∈ rules.viewPermissionsFor r) :
      Occasion rules s r op (.permission s.roles.withoutAdministrator p)
  /-- A bundle with grant fields asks for the grants. -/
  | grants (hopen : op = .delete → r.locked = false) (huses : rules.usesGrants = true) :
      Occasion rules s r op (.grants r)
  /-- It then asks for the groups of someone who is not anonymous, except about a creation. -/
  | member {subject : SubjectId} {group : GroupId} (hopen : op = .delete → r.locked = false)
      (huses : rules.usesGrants = true) (hop : op ≠ .create) (hknown : s.isAnonymous = false)
      (hid : s.id = some subject) : Occasion rules s r op (.member subject group)

/-- What a view asks the registry for. -/
theorem Occasion.permission_of_view {rules : BundleRules} {roles : RoleSet} {p : String}
    (h : Occasion rules s r .view (.permission roles p)) :
    roles = s.roles.withoutAdministrator ∧ p ∈ rules.viewPermissionsFor r := by
  cases h with
  | admin hop => exact absurd rfl hop
  | viewPermission _ hp => exact ⟨rfl, hp⟩

/-- The questions of the loop over the grants: whether the subject, known by an account, belongs to
some group. -/
def AboutMember (s : Subject) (q : Question) : Prop :=
  s.isAnonymous = false ∧ ∃ subject group, s.id = some subject ∧ q = .member subject group

theorem firstMissing_asksOnly (roles : RoleSet) (permissions : List String) :
    (firstMissing roles permissions).AsksOnly fun q => ∃ p ∈ permissions, q = .permission roles p := by
  induction permissions with
  | nil => trivial
  | cons p rest ih =>
    refine ⟨⟨p, List.mem_cons_self, rfl⟩, fun held => ?_⟩
    cases held with
    | true =>
      refine Consultation.AsksOnly.mono ih ?_
      rintro q ⟨other, hother, rfl⟩
      exact ⟨other, List.mem_cons_of_mem p hother, rfl⟩
    | false => trivial

theorem checkViewPermissions_asksOnly (rules : BundleRules) :
    (checkViewPermissions s r rules).AsksOnly fun q =>
      ∃ p ∈ rules.viewPermissionsFor r, q = .permission s.roles.withoutAdministrator p := by
  refine (firstMissing_asksOnly _ _).bind fun missing => ?_
  cases missing <;> trivial

theorem appliesToMember_asksOnly (g : Grant) :
    (appliesToMember s g op).AsksOnly (AboutMember s) := by
  unfold appliesToMember
  split
  · trivial
  · rename_i hasks
    simp only [Bool.or_eq_true, not_or, Bool.not_eq_true] at hasks
    split
    · rename_i subject group hid _
      exact ⟨⟨hasks.2, subject, group, hid, rfl⟩, fun _ => trivial⟩
    · trivial

/-- The loop asks what it takes to know whom each of the grants applies to. -/
theorem evaluate_asksOnly_of {P : Question → Prop} {grants : List Grant}
    (h : ∀ g ∈ grants, (appliesToMember s g op).AsksOnly P) :
    (evaluate s r op grants).AsksOnly P := by
  induction grants with
  | nil => trivial
  | cons g rest ih =>
    have hrest := ih fun g' hg' => h g' (List.mem_cons_of_mem g hg')
    rw [evaluate]
    split
    · exact hrest
    · split
      · trivial
      · refine (h g List.mem_cons_self).bind fun applies => ?_
        cases applies with
        | true => trivial
        | false => exact hrest

theorem evaluate_asksOnly (grants : List Grant) :
    (evaluate s r op grants).AsksOnly (AboutMember s) :=
  evaluate_asksOnly_of fun g _ => appliesToMember_asksOnly g

/-- The grants are asked for first and are not asked for again: with them the loop asks for groups. -/
theorem checkGrants_eq_ask (s : Subject) (r : Resource) (op : Operation) :
    ∃ next : List Grant → Consultation Decision, checkGrants s r op = .ask (.grants r) next ∧
      ∀ grants, (next grants).AsksOnly fun q => op ≠ .create ∧ AboutMember s q := by
  refine ⟨_, rfl, fun grants => ?_⟩
  show (if grants.isEmpty then _ else _ : Consultation Decision).AsksOnly _
  split
  · trivial
  · split
    · trivial
    · rename_i hop
      exact (evaluate_asksOnly grants).mono fun q hq => ⟨by simpa using hop, hq⟩

theorem checkGrants_asksOnly :
    (checkGrants s r op).AsksOnly fun q => q = .grants r ∨ op ≠ .create ∧ AboutMember s q := by
  obtain ⟨next, heq, hnext⟩ := checkGrants_eq_ask s r op
  rw [heq]
  exact ⟨Or.inl rfl, fun grants => (hnext grants).mono fun q => Or.inr⟩

theorem lock_asksOnly (p : String) :
    (Lock.check s r op p).AsksOnly fun q =>
      op ≠ .view ∧ (op = .delete → r.locked = false) ∧ q = .permission s.roles p := by
  rw [Lock.check]
  split
  · trivial
  · rename_i hlock
    show (if op == .view then _ else _ : Consultation (Option Decision)).AsksOnly _
    split
    · trivial
    · rename_i hop
      refine ⟨⟨by simpa using hop, by simpa using hlock, rfl⟩, fun held => ?_⟩
      cases held <;> trivial

/-- The lock and the admin permission have nothing to do with a view. -/
theorem resolve_view (bundles : BundleMap) :
    resolve bundles s r .view = applyRules (bundles.rulesFor r.bundle) s r .view := rfl

/-- A locked resource is kept without asking anybody. -/
theorem resolve_locked (bundles : BundleMap) (hlocked : r.locked = true) :
    resolve bundles s r .delete = pure ((Decision.forbidden Lock.reason).withTag r.cacheTag) := by
  rw [resolve, Lock.check, if_pos (by simpa using hlocked)]
  rfl

theorem applyRules_asksOnly (rules : BundleRules) (hopen : op = .delete → r.locked = false) :
    (applyRules rules s r op).AsksOnly (Occasion rules s r op) := by
  rw [applyRules]
  split
  · rename_i hgated
    rw [Bool.and_eq_true, beq_iff_eq] at hgated
    refine (checkViewPermissions_asksOnly rules).mono ?_
    rintro q ⟨p, hp, rfl⟩
    exact .viewPermission hgated.1 hp
  · split
    · rename_i huses
      refine checkGrants_asksOnly.mono ?_
      rintro q (rfl | ⟨hop, hknown, subject, group, hid, rfl⟩)
      · exact .grants hopen huses
      · exact .member hopen huses hop hknown hid
    · trivial

/-- **The resolver asks on its occasions only**, whatever it is answered. -/
theorem resolve_asksOnly (bundles : BundleMap) (s : Subject) (r : Resource) (op : Operation) :
    (resolve bundles s r op).AsksOnly (Occasion (bundles.rulesFor r.bundle) s r op) := by
  -- The rules know nothing of the lock, so the occasions on which they ask are theirs only past it.
  by_cases hlocked : op = .delete ∧ r.locked = true
  · obtain ⟨rfl, hlocked⟩ := hlocked
    rw [resolve_locked bundles hlocked]
    trivial
  · have hopen : op = .delete → r.locked = false := by
      intro hop
      simpa [hop] using hlocked
    refine ((lock_asksOnly _).mono ?_).bind fun settled => ?_
    · rintro q ⟨hop, -, rfl⟩
      exact .admin hop hopen
    · cases settled with
      | some d => trivial
      | none => exact applyRules_asksOnly _ hopen

/-- Only the rules ask for the grants, and only where they start. -/
theorem resolve_asksAtMost_grants (bundles : BundleMap) (s : Subject) (r : Resource)
    (op : Operation) : (resolve bundles s r op).AsksAtMost Question.isAboutGrants 1 := by
  have hlock : (Lock.check s r op ((bundles.rulesFor r.bundle).adminPermissionFor r)).AsksAtMost
      Question.isAboutGrants 0 := by
    refine (lock_asksOnly _).asksAtMost_zero ?_
    rintro q ⟨-, -, rfl⟩
    rfl
  have hview : (checkViewPermissions s r (bundles.rulesFor r.bundle)).AsksAtMost
      Question.isAboutGrants 0 := by
    refine (checkViewPermissions_asksOnly _).asksAtMost_zero ?_
    rintro q ⟨p, -, rfl⟩
    rfl
  have hgrants : (checkGrants s r op).AsksAtMost Question.isAboutGrants 1 := by
    obtain ⟨next, heq, hnext⟩ := checkGrants_eq_ask s r op
    rw [heq]
    refine ⟨0, rfl, fun grants => (hnext grants).asksAtMost_zero ?_⟩
    rintro q ⟨-, -, subject, group, -, rfl⟩
    rfl
  -- The lock spends nothing, so the rules may still ask once.
  refine hlock.bind (n := 1) fun settled => ?_
  cases settled with
  | some d => trivial
  | none =>
    show (applyRules _ s r op).AsksAtMost _ 1
    rw [applyRules]
    split
    · exact hview.mono (Nat.zero_le 1)
    · split
      · exact hgrants
      · trivial

/-- A view is the same procedure whatever the admin permission of the bundle is. -/
theorem resolve_view_withAdminPermission (bundles : BundleMap) (s : Subject) (r : Resource)
    (p : Option String) :
    resolve (bundles.withAdminPermission r.bundle p) s r .view = resolve bundles s r .view := by
  rw [resolve_view, resolve_view, BundleMap.withAdminPermission, BundleMap.rulesFor_insert_self]
  rfl

/-- Asked by name, an operation is refused at once or is the one of that name. -/
theorem resolveNamed_of_not_mem (bundles : BundleMap) (s : Subject) (r : Resource) {name : String}
    (h : name ∉ ["view", "update", "delete", "create"]) :
    resolveNamed bundles s r name = .error ⟨name⟩ := by
  have hnone : Operation.ofName? name = none := by
    refine List.find?_eq_none.mpr fun op _ hname => h ?_
    rw [beq_iff_eq] at hname
    subst hname
    cases op <;> simp [Operation.name]
  rw [resolveNamed, Operation.parse, hnone]
  rfl

theorem resolveNamed_name (bundles : BundleMap) (s : Subject) (r : Resource) (op : Operation) :
    resolveNamed bundles s r op.name = .ok (resolve bundles s r op) := by
  cases op <;> rfl

end Resolver

/-! ## The stock permissions -/

namespace StockPermissions

variable {s : Subject} {r : Resource} {op : Operation}

/-- The questions of the stock permissions, all of them about all roles. -/
inductive Occasion (s : Subject) (r : Resource) (op : Operation) : Question → Prop
  | any : Occasion s r op (.permission s.roles (anyPermission r.bundle op))
  /-- The permission for owners is asked of an owner. -/
  | own {own : String} (hown : ownPermission? r.bundle op = some own)
      (howns : r.isOwnedBy s.id = true) : Occasion s r op (.permission s.roles own)

theorem check_asksOnly (s : Subject) (r : Resource) (op : Operation) :
    (check s r op).AsksOnly (Occasion s r op) := by
  rw [check]
  refine Consultation.AsksOnly.bind ⟨.any, fun _ => trivial⟩ fun held => ?_
  split
  · trivial
  · cases hown : ownPermission? r.bundle op with
    | none => trivial
    | some own =>
      refine Consultation.AsksOnly.bind (c := ownerHolds s r own) ?_ fun _ => trivial
      unfold ownerHolds
      split
      · rename_i howns
        exact ⟨.own hown howns, fun _ => trivial⟩
      · trivial

end StockPermissions

/-! ## The chain -/

namespace Chain

variable {c : Chain} {s : Subject} {r : Resource} {op : Operation}

/-- The questions of the chain: those of the resolver, and of the stock permissions if it has them. -/
def Occasion (c : Chain) (s : Subject) (r : Resource) (op : Operation) (q : Question) : Prop :=
  Resolver.Occasion (c.bundles.rulesFor r.bundle) s r op q ∨
    c.stock = true ∧ StockPermissions.Occasion s r op q

/-- **The chain asks on its occasions only**, whatever it is answered. -/
theorem check_asksOnly (c : Chain) (s : Subject) (r : Resource) (op : Operation) :
    (c.check s r op).AsksOnly (c.Occasion s r op) := by
  refine ((Resolver.resolve_asksOnly c.bundles s r op).mono fun q => Or.inl).bind fun first => ?_
  show (if !c.stock || isFinal first r op then _ else _ : Consultation Decision).AsksOnly _
  split
  · trivial
  · rename_i hasks
    have hstock : c.stock = true := by
      simp only [Bool.or_eq_true, not_or, Bool.not_eq_true, Bool.not_eq_false'] at hasks
      exact hasks.1
    refine ((StockPermissions.check_asksOnly s r op).mono ?_).bind fun second => trivial
    exact fun q hq => Or.inr ⟨hstock, hq⟩

theorem check_locked (c : Chain) (s : Subject) (hlocked : r.locked = true) :
    c.check s r .delete = pure ((Decision.forbidden Lock.reason).withTag r.cacheTag) := by
  have hfinal : isFinal ((Decision.forbidden Lock.reason).withTag r.cacheTag) r .delete = true := by
    simp only [isFinal, isOverridable, hlocked]
    rfl
  rw [check, Resolver.resolve_locked c.bundles hlocked, pure_bind, hfinal, Bool.or_true, if_pos rfl]

theorem check_view_withAdminPermission (c : Chain) (s : Subject) (r : Resource) (p : Option String) :
    ({ c with bundles := c.bundles.withAdminPermission r.bundle p } : Chain).check s r .view =
      c.check s r .view := by
  rw [check, Resolver.resolve_view_withAdminPermission]
  rfl

theorem check_asksAtMost_grants (c : Chain) (s : Subject) (r : Resource) (op : Operation) :
    (c.check s r op).AsksAtMost Question.isAboutGrants 1 := by
  have hsecond : (StockPermissions.check s r op).AsksAtMost Question.isAboutGrants 0 := by
    refine (StockPermissions.check_asksOnly s r op).asksAtMost_zero ?_
    rintro q (_ | _) <;> rfl
  refine (Resolver.resolve_asksAtMost_grants c.bundles s r op).bind (n := 0) fun first => ?_
  show (if !c.stock || isFinal first r op then _ else _ : Consultation Decision).AsksAtMost _ 0
  split
  · trivial
  · exact hsecond.bind (n := 0) fun second => trivial

/-- **A failure is reported, and none is risked without need.** Those who respond may fail on whatever
they like, and need not respond alike to the same question. The chain and its resolver then

* come to what the responses give, with the first failure in place of a decision, and to nothing
  else where each failure is dealt with by hand (`tryCheck`);
* refuse the deletion of a locked resource without asking anybody;
* ask about a view only for the permissions that viewing takes, and then for the stock permission,
  never for the admin permission, which could be any other;
* ask for grants at most once;
* refuse, by the name that was given, an operation that there is not. -/
theorem accountable {ε : Type} (respond : Respondent ε) (c : Chain) (s : Subject) (r : Resource) :
    (∀ op, (c.check s r op).Faithful respond ∧
      (Resolver.resolve c.bundles s r op).Faithful respond) ∧
    (r.locked = true →
      (c.check s r .delete).run respond [] =
        (.ok ((Decision.forbidden Lock.reason).withTag r.cacheTag), []) ∧
      (Resolver.resolve c.bundles s r .delete).run respond [] =
        (.ok ((Decision.forbidden Lock.reason).withTag r.cacheTag), [])) ∧
    (∀ roles p, .permission roles p ∈ ((c.check s r .view).run respond []).2 →
      (roles = s.roles.withoutAdministrator ∧
        p ∈ (c.bundles.rulesFor r.bundle).viewPermissionsFor r) ∨
      (c.stock = true ∧ roles = s.roles ∧ p = StockPermissions.accessContent)) ∧
    (∀ roles p, .permission roles p ∈ ((Resolver.resolve c.bundles s r .view).run respond []).2 →
      roles = s.roles.withoutAdministrator ∧
        p ∈ (c.bundles.rulesFor r.bundle).viewPermissionsFor r) ∧
    (∀ p, ({ c with bundles := c.bundles.withAdminPermission r.bundle p } : Chain).check s r .view =
        c.check s r .view ∧
      Resolver.resolve (c.bundles.withAdminPermission r.bundle p) s r .view =
        Resolver.resolve c.bundles s r .view) ∧
    (∀ op, ((c.check s r op).run respond []).2.countP Question.isAboutGrants ≤ 1 ∧
      ((Resolver.resolve c.bundles s r op).run respond []).2.countP Question.isAboutGrants ≤ 1) ∧
    (∀ name, name ∉ ["view", "update", "delete", "create"] →
      Resolver.resolveNamed c.bundles s r name = .error ⟨name⟩) ∧
    (∀ op, Resolver.resolveNamed c.bundles s r op.name = .ok (Resolver.resolve c.bundles s r op)) ∧
    (∀ op, (c.check s r op).run respond [] = c.tryCheck respond s r op [] ∧
      (Resolver.resolve c.bundles s r op).run respond [] =
        Resolver.tryResolve respond c.bundles s r op []) := by
  refine ⟨?_, ?_, ?_, ?_, ?_, ?_, ?_, ?_, ?_⟩
  · intro op
    exact ⟨Consultation.faithful respond _, Consultation.faithful respond _⟩
  · intro hlocked
    rw [check_locked c s hlocked, Resolver.resolve_locked c.bundles hlocked]
    exact ⟨rfl, rfl⟩
  · intro roles p hasked
    rcases (check_asksOnly c s r .view).of_mem_run hasked with hresolver | ⟨hstock, hsecond⟩
    · exact Or.inl hresolver.permission_of_view
    · cases hsecond with
      | any => exact Or.inr ⟨hstock, rfl, rfl⟩
      -- There is no permission to view what one owns.
      | own hown => simp [StockPermissions.ownPermission?] at hown
  · intro roles p hasked
    exact ((Resolver.resolve_asksOnly c.bundles s r .view).of_mem_run hasked).permission_of_view
  · intro p
    exact ⟨check_view_withAdminPermission c s r p,
      Resolver.resolve_view_withAdminPermission c.bundles s r p⟩
  · intro op
    exact ⟨(check_asksAtMost_grants c s r op).countP_run,
      (Resolver.resolve_asksAtMost_grants c.bundles s r op).countP_run⟩
  · intro name hname
    exact Resolver.resolveNamed_of_not_mem c.bundles s r hname
  · intro op
    exact Resolver.resolveNamed_name c.bundles s r op
  · intro op
    exact ⟨run_check c, Resolver.run_resolve⟩

/-! ### In the newsroom -/

/-- The newsroom while its membership cannot be reached. -/
def outage : Respondent String
  | _, .permission _ _ => .ok false
  | _, .grants r => .ok (Newsroom.collaborators.grantsFor r)
  | _, .member _ _ => .error "unreachable"

/-- An update fails where the groups of the editor are asked for; the deletion of the locked article is
refused all the same. -/
theorem outage_reported :
    ((({ bundles := Newsroom.bundles, stock := true } : Chain).check Newsroom.editor
        Newsroom.article .update).run outage [] =
      (.error "unreachable", [.permission Newsroom.editor.roles "administer article",
        .grants Newsroom.article, .member ⟨1⟩ ⟨1⟩])) ∧
    ((({ bundles := Newsroom.bundles, stock := true } : Chain).check Newsroom.editor
        { Newsroom.article with locked := true } .delete).run outage [] =
      (.ok ((Decision.forbidden "resource is locked").withTag "article:7"), [])) ∧
    Resolver.resolveNamed Newsroom.bundles Newsroom.editor Newsroom.article "View" =
      .error ⟨"View"⟩ := by
  have hopen := accountable outage { bundles := Newsroom.bundles, stock := true } Newsroom.editor
    Newsroom.article
  have hlocked := accountable outage { bundles := Newsroom.bundles, stock := true } Newsroom.editor
    { Newsroom.article with locked := true }
  obtain ⟨hfaithful, -, -, -, -, -, hunknown, -⟩ := hopen
  refine ⟨?_, ?_, hunknown "View" (by decide)⟩
  · refine (hfaithful .update).1.refused [.permission Newsroom.editor.roles "administer article",
      .grants Newsroom.article] (.member ⟨1⟩ ⟨1⟩) "unreachable" ?_ rfl
    exact ⟨[], by decide⟩
  · exact (hlocked.2.1 rfl).1

end Chain

end AccessControl
