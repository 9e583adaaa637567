import AccessControl.Proofs.Occasions
import AccessControl.Proofs.Rights

/-!
# Views that permissions gate

A bundle with view permissions is there so that *nobody* sees its resources without them: not the
administrators of the site, not the owner, not the members of a group. The chain has three places
that ask the registry, and two of them ask it with all roles, so this is not a matter of one test.

What makes it true is that the gate comes first and is final (`Chain.eval_check_gated`): a view of
such a resource is decided by its view permissions and by the roles other than `administrator`, and
whatever the gate says nobody else is asked. Two requests that show the gate the same
(`SameGate`) get the same decision, reason and metadata included. `BesideGate` lists what may change
between them, one change at a time, and any number of those leaves the decision as it was
(`ViewRequest.gated_noninterference`).
-/

set_option autoImplicit false

namespace AccessControl

/-! ## The gate -/

namespace Chain

variable {k : Collaborators} {c : Chain} {s : Subject} {r : Resource}

/-- **The gate decides.** -/
theorem eval_check_gated (hgated : (c.bundles.rulesFor r.bundle).viewPermissions ≠ []) :
    (c.check s r .view).eval k =
      match ((c.bundles.rulesFor r.bundle).viewPermissionsFor r).find?
          (fun p => !k.holds s.roles.withoutAdministrator p) with
      | none => (Decision.allowed "all view permissions held").perPermissions
      | some p => (Decision.forbidden ("missing permission '" ++ p ++ "'")).perPermissions := by
  cases hfind : ((c.bundles.rulesFor r.bundle).viewPermissionsFor r).find?
      (fun p => !k.holds s.roles.withoutAdministrator p) with
  | none => exact eval_of_final (.viewHeld hgated hfind) rfl
  | some p => exact eval_of_final (.viewMissing hgated hfind) rfl

/-- It lets through whoever holds all that viewing takes, and refuses everyone else. -/
theorem outcome_check_gated (hgated : (c.bundles.rulesFor r.bundle).viewPermissions ≠ []) :
    ((c.check s r .view).eval k).outcome =
      if ∀ p ∈ (c.bundles.rulesFor r.bundle).viewPermissionsFor r,
        k.holds s.roles.withoutAdministrator p = true then .allowed else .forbidden := by
  rw [eval_check_gated hgated]
  cases hfind : ((c.bundles.rulesFor r.bundle).viewPermissionsFor r).find?
      (fun p => !k.holds s.roles.withoutAdministrator p) with
  | none =>
    rw [if_pos (by simpa using hfind)]
    rfl
  | some p =>
    have hmissing := List.find?_some hfind
    rw [if_neg fun hall => by simp [hall p (List.mem_of_find?_eq_some hfind)] at hmissing]
    rfl

end Chain

/-- Whom the roles without `administrator` make a holder. -/
theorem Registry.holds_withoutAdministrator {registry : Registry} {roles : RoleSet} {p : String} :
    registry.holds roles.withoutAdministrator p = true ↔
      ∃ role ∈ roles, role ≠ .administrator ∧ registry.gives role p = true := by
  simp only [holds_iff, RoleSet.mem_withoutAdministrator, and_assoc]

/-! ## Requests -/

/-- Someone asks in an environment to view a resource. -/
structure ViewRequest extends Standing where
  resource : Resource

namespace ViewRequest

/-- The rules of the bundle of the resource. -/
def rules (t : ViewRequest) : BundleRules := t.environment.bundles.rulesFor t.resource.bundle

/-- The chain comes to a decision about the request. -/
def Decides (t : ViewRequest) (d : Decision) : Prop :=
  (((t.environment.chain t.stock).check t.subject t.resource .view).run
    (t.environment.collaborators.respondent : Respondent Empty) []).1 = .ok d

/-- The decision itself. -/
def decision (t : ViewRequest) : Decision :=
  ((t.environment.chain t.stock).check t.subject t.resource .view).eval t.environment.collaborators

theorem decides_decision (t : ViewRequest) : t.Decides t.decision :=
  Consultation.run_respondent _ _ _

theorem decision_of_gated (t : ViewRequest) (hgated : t.rules.viewPermissions ≠ []) :
    t.decision =
      match (t.rules.viewPermissionsFor t.resource).find?
          (fun p => !t.environment.collaborators.holds t.subject.roles.withoutAdministrator p) with
      | none => (Decision.allowed "all view permissions held").perPermissions
      | some p => (Decision.forbidden ("missing permission '" ++ p ++ "'")).perPermissions :=
  Chain.eval_check_gated (c := t.environment.chain t.stock) hgated

theorem outcome_decision_of_gated (t : ViewRequest) (hgated : t.rules.viewPermissions ≠ []) :
    t.decision.outcome = .allowed ↔
      ∀ p ∈ t.rules.viewPermissionsFor t.resource, ∃ role ∈ t.subject.roles,
        role ≠ .administrator ∧ t.environment.registry.gives role p = true := by
  have houtcome : t.decision.outcome = _ :=
    Chain.outcome_check_gated (c := t.environment.chain t.stock) hgated
  simp only [← Registry.holds_withoutAdministrator]
  rw [houtcome]
  split
  · rename_i hall
    exact iff_of_true rfl hall
  · rename_i hmissing
    exact iff_of_false nofun hmissing

end ViewRequest

/-- What the gate looks at is the same in two requests: the permissions that viewing takes, the roles
other than `administrator`, and what these give. -/
structure SameGate (t t' : ViewRequest) : Prop where
  permissions : t'.rules.viewPermissionsFor t'.resource = t.rules.viewPermissionsFor t.resource
  roles : ∀ role, role ≠ .administrator → (role ∈ t'.subject.roles ↔ role ∈ t.subject.roles)
  gives : ∀ role, role ≠ .administrator → ∀ p,
    t'.environment.registry.gives role p = t.environment.registry.gives role p

namespace SameGate

variable {t t' t'' : ViewRequest}

theorem refl (t : ViewRequest) : SameGate t t :=
  ⟨rfl, fun _ _ => Iff.rfl, fun _ _ _ => rfl⟩

theorem trans (h : SameGate t t') (h' : SameGate t' t'') : SameGate t t'' where
  permissions := h'.permissions.trans h.permissions
  roles role hrole := (h'.roles role hrole).trans (h.roles role hrole)
  gives role hrole p := (h'.gives role hrole p).trans (h.gives role hrole p)

theorem gated (h : SameGate t t') (hgated : t.rules.viewPermissions ≠ []) :
    t'.rules.viewPermissions ≠ [] := by
  intro hnone
  have hpermissions := h.permissions
  rw [BundleRules.viewPermissionsFor, hnone, List.map_nil, eq_comm, BundleRules.viewPermissionsFor,
    List.map_eq_nil_iff] at hpermissions
  exact hgated hpermissions

theorem holds (h : SameGate t t') (p : String) :
    t'.environment.registry.holds t'.subject.roles.withoutAdministrator p =
      t.environment.registry.holds t.subject.roles.withoutAdministrator p := by
  rw [Bool.eq_iff_iff, Registry.holds_withoutAdministrator, Registry.holds_withoutAdministrator]
  refine exists_congr fun role => ?_
  by_cases hrole : role = .administrator
  · simp [hrole]
  · rw [h.roles role hrole, h.gives role hrole p]

/-- **Requests that show the gate the same are decided alike.** -/
theorem decides (h : SameGate t t') (hgated : t.rules.viewPermissions ≠ []) :
    t'.Decides t.decision := by
  have hholds :
      (fun p => !t'.environment.collaborators.holds t'.subject.roles.withoutAdministrator p) =
        fun p => !t.environment.collaborators.holds t.subject.roles.withoutAdministrator p :=
    funext fun p => congrArg Bool.not (h.holds p)
  have heq : t'.decision = t.decision := by
    rw [t'.decision_of_gated (h.gated hgated), t.decision_of_gated hgated, h.permissions, hholds]
  exact heq ▸ t'.decides_decision

end SameGate

/-! ## What the gate does not look at -/

/-- One change beside the gate. -/
inductive BesideGate : ViewRequest → ViewRequest → Prop
  /-- The subject becomes an administrator. -/
  | addAdministrator (t : ViewRequest) :
      BesideGate t { t with subject.roles := t.subject.roles.insert .administrator }
  /-- The subject stops being one. -/
  | removeAdministrator (t : ViewRequest) :
      BesideGate t { t with subject.roles := t.subject.roles.erase .administrator }
  /-- Administrators are given one more permission, whichever it is. -/
  | permission (t : ViewRequest) (p : String) :
      BesideGate t
        { t with environment.registry := t.environment.registry.grant .administrator p }
  /-- The bundle has another admin permission, or the default one. -/
  | adminPermission (t : ViewRequest) (p : Option String) :
      BesideGate t
        { t with
          environment.bundles := t.environment.bundles.withAdminPermission t.resource.bundle p }
  | locked (t : ViewRequest) (locked : Bool) : BesideGate t { t with resource.locked := locked }
  | owner (t : ViewRequest) (owner : Option SubjectId) :
      BesideGate t { t with resource.owner := owner }
  | store (t : ViewRequest) (store : Store) : BesideGate t { t with environment.store := store }
  | membership (t : ViewRequest) (membership : Membership) :
      BesideGate t { t with environment.membership := membership }

/-- **No such change is one that the gate can see.** -/
theorem BesideGate.sameGate {t t' : ViewRequest} (h : BesideGate t t') : SameGate t t' := by
  cases h with
  | addAdministrator =>
    refine { SameGate.refl t with roles := fun role hrole => ?_ }
    rw [Std.ExtTreeSet.mem_insert, Std.LawfulEqCmp.compare_eq_iff_eq, or_iff_right (Ne.symm hrole)]
  | removeAdministrator =>
    refine { SameGate.refl t with roles := fun role hrole => ?_ }
    rw [← RoleSet.withoutAdministrator, RoleSet.mem_withoutAdministrator, and_iff_left hrole]
  | permission q =>
    refine { SameGate.refl t with gives := fun role hrole p => ?_ }
    rw [Bool.eq_iff_iff, Registry.gives_grant, or_iff_left fun h => hrole h.1.symm]
  | adminPermission p =>
    refine { SameGate.refl t with permissions := ?_ }
    rw [ViewRequest.rules, BundleMap.withAdminPermission, BundleMap.rulesFor_insert_self]
    rfl
  | locked _ | owner _ | store _ | membership _ =>
    exact ⟨rfl, fun _ _ => Iff.rfl, fun _ _ _ => rfl⟩

theorem sameGate_of_changes {t t' : ViewRequest}
    (h : Relation.ReflTransGen BesideGate t t') : SameGate t t' := by
  induction h with
  | refl => exact SameGate.refl t
  | tail _ hchange ih => exact ih.trans hchange.sameGate

/-- **Administrators do not see more.** Take a view of a resource whose bundle has view permissions, and
change any number of things beside the gate, in any order. The chain comes to the same decision before
and after, with its reason, contexts and tags, and it allows the view if and only if each permission
that viewing takes is given by a role of the subject other than `administrator`. And whether or not a
bundle has view permissions, its admin permission is no part of the procedure that decides a view. -/
theorem ViewRequest.gated_noninterference :
    (∀ t t' : ViewRequest, t.rules.viewPermissions ≠ [] → Relation.ReflTransGen BesideGate t t' →
      ∃ d, t.Decides d ∧ t'.Decides d ∧
        (d.outcome = .allowed ↔ ∀ p ∈ t.rules.viewPermissionsFor t.resource,
          ∃ role ∈ t.subject.roles,
            role ≠ .administrator ∧ t.environment.registry.gives role p = true)) ∧
    (∀ (c : Chain) (s : Subject) (r : Resource) (p : Option String),
      ({ c with bundles := c.bundles.withAdminPermission r.bundle p } : Chain).check s r .view =
        c.check s r .view) := by
  refine ⟨?_, Chain.check_view_withAdminPermission⟩
  intro t t' hgated hchanges
  exact ⟨t.decision, t.decides_decision, (sameGate_of_changes hchanges).decides hgated,
    t.outcome_decision_of_gated hgated⟩

/-! ### A paid issue

Someone who has not paid for an issue, and the same person as its owner and as an administrator, with
the permission to read it given to administrators. -/

namespace PaidIssue

def request : ViewRequest where
  environment :=
    { registry := ∅
      membership := ∅
      store := ∅
      bundles := (∅ : BundleMap).insert "issue" { viewPermissions := ["read issue \x7bid\x7d"] }
      resources := [] }
  subject := .account ⟨3⟩ ∅
  stock := true
  resource := .plain ⟨7⟩ "issue"

def laterRequest : ViewRequest where
  environment :=
    { request.environment with
      registry := request.environment.registry.grant .administrator "read issue 7" }
  subject := { request.subject with roles := request.subject.roles.insert .administrator }
  stock := true
  resource := { request.resource with owner := some ⟨3⟩ }

end PaidIssue

/-- The issue stays closed. -/
theorem ViewRequest.unpaid_issue_refused :
    PaidIssue.request.rules.viewPermissions ≠ [] ∧
    Relation.ReflTransGen BesideGate PaidIssue.request PaidIssue.laterRequest ∧
    ∃ d, PaidIssue.request.Decides d ∧ PaidIssue.laterRequest.Decides d ∧
      d.outcome ≠ .allowed := by
  have hgated : PaidIssue.request.rules.viewPermissions ≠ [] := by decide
  have hchanges : Relation.ReflTransGen BesideGate PaidIssue.request PaidIssue.laterRequest :=
    .tail (.tail (.tail .refl (.addAdministrator _)) (.permission _ "read issue 7"))
      (.owner _ (some ⟨3⟩))
  refine ⟨hgated, hchanges, ?_⟩
  obtain ⟨d, hd, hlater, hallowed⟩ := gated_noninterference.1 _ _ hgated hchanges
  refine ⟨d, hd, hlater, fun h => ?_⟩
  obtain ⟨role, -, -, hgives⟩ := hallowed.mp h "read issue 7" (by decide)
  simp [PaidIssue.request, Registry.gives] at hgives

end AccessControl
