import AccessControl.Proofs.Answering
import AccessControl.Proofs.Metadata
import AccessControl.Proofs.Rulings

/-!
# The decision table

What the chain decides, written down without the order in which it finds out: a table with one row
for each operation and conditions on who holds what, which grants there are, and who owns the
resource.

The procedure spreads this over four places. It tests the lock, then the admin permission, then
either view permissions or grants, and asks the stock permissions only after some of the answers;
the role `administrator` is taken away for one of these tests and for no other. The table shows
what is left of that order: a view is *gated* by view permissions before anything else can open it,
the lock beats every permission, and everywhere else the ways to be let through stand side by side.
-/

set_option autoImplicit false

namespace AccessControl

/-! ## The rows -/

namespace DecisionTable

variable (k : Collaborators) (rules : BundleRules) (s : Subject) (r : Resource)

/-- Whether the grants have a say: the bundle has grant fields and the resource has grants. -/
def hasGrants : Bool := !rules.grantFields.isEmpty && !(k.grantsFor r).isEmpty

/-- Whether the grants let the subject do an operation. -/
def isGranted (op : Operation) : Bool :=
  !rules.grantFields.isEmpty && (k.grantsFor r).any (k.fits s op)

/-- Viewing. The view permissions settle it where there are any, with the roles other than
`administrator`; then the grants do; then the permission to view content. -/
def view : Outcome :=
  if !rules.viewPermissions.isEmpty then
    if (rules.viewPermissionsFor r).all (k.holds s.roles.withoutAdministrator) then .allowed
    else .forbidden
  else if hasGrants k rules r then
    if isGranted k rules s r .view then .allowed else .forbidden
  else if k.holds s.roles "access content" then .allowed
  else .neutral

/-- Changing a resource that the lock does not protect: by the admin permission, by a grant, by the
permission for the whole bundle or, for the owner, by the one for owners. -/
def change (op : Operation) (any own : String) : Outcome :=
  if k.holds s.roles (rules.adminPermissionFor r) || isGranted k rules s r op ||
      k.holds s.roles any || (r.isOwnedBy s.id && k.holds s.roles own) then .allowed
  else if hasGrants k rules r then .forbidden
  else .neutral

/-- The whole table. -/
def outcome : Operation → Outcome
  | .view => view k rules s r
  | .update =>
    change k rules s r .update ("edit any " ++ r.bundle ++ " content")
      ("edit own " ++ r.bundle ++ " content")
  | .delete =>
    if r.locked then .forbidden
    else change k rules s r .delete ("delete any " ++ r.bundle ++ " content")
      ("delete own " ++ r.bundle ++ " content")
  | .create =>
    if k.holds s.roles (rules.adminPermissionFor r) ||
        k.holds s.roles ("create " ++ r.bundle ++ " content") then .allowed
    else .neutral

variable {k : Collaborators} {rules : BundleRules} {s : Subject} {r : Resource} {op : Operation}

theorem hasGrants_iff :
    hasGrants k rules r = true ↔ rules.grantFields ≠ [] ∧ k.grantsFor r ≠ [] := by
  simp [hasGrants]

/-- A grant lets a subject do an operation by its flag for everyone, who may view, or by the flag for
the operation, if the subject is not anonymous and is a member of the group. -/
theorem isGranted_iff :
    isGranted k rules s r op = true ↔
      rules.grantFields ≠ [] ∧ ∃ g ∈ k.grantsFor r, ∃ group, g.target = some group ∧
        (op = .view ∧ g.isPublic = true ∨
          (op = .view ∧ g.view = true ∨ op = .update ∧ g.update = true ∨
            op = .delete ∧ g.delete = true) ∧
          s.isAnonymous = false ∧ ∃ subject, s.id = some subject ∧
            k.isMember subject group = true) := by
  simp only [isGranted, Bool.and_eq_true, Bool.not_eq_true', List.isEmpty_eq_false_iff,
    List.any_eq_true, Collaborators.fits_iff, Collaborators.places_iff, Grant.givesEveryone_iff,
    Grant.givesMembers_iff]

/-- Grants that let someone through are grants that have a say. -/
theorem hasGrants_of_isGranted (h : isGranted k rules s r op = true) :
    hasGrants k rules r = true := by
  obtain ⟨hfields, g, hg, -⟩ := isGranted_iff.mp h
  exact hasGrants_iff.mpr ⟨hfields, List.ne_nil_of_mem hg⟩

/-- **Who may change a resource** that the lock does not protect: whoever has the admin permission, a
grant, the permission for the whole bundle, or both the one for owners and the resource. -/
theorem change_eq_allowed_iff {any own : String} :
    change k rules s r op any own = .allowed ↔
      k.holds s.roles (rules.adminPermissionFor r) = true ∨ isGranted k rules s r op = true ∨
        k.holds s.roles any = true ∨
        (∃ owner, r.owner = some owner ∧ s.id = some owner) ∧ k.holds s.roles own = true := by
  simp only [change, ← Resource.isOwnedBy_iff, ← Bool.and_eq_true, ← Bool.or_eq_true]
  split
  · rename_i h
    simpa [or_assoc] using h
  · rename_i h
    split <;> simpa [or_assoc] using h

end DecisionTable

/-! ## The second layer in a line -/

namespace StockPermissions

variable {k : Collaborators} {s : Subject} {r : Resource} {op : Operation}

/-- Whether the stock permissions allow an operation. -/
def suffice (k : Collaborators) (s : Subject) (r : Resource) (op : Operation) : Bool :=
  k.holds s.roles (anyPermission r.bundle op) ||
    (ownPermission? r.bundle op).any fun own => r.isOwnedBy s.id && k.holds s.roles own

theorem Ruling.outcome_eq {d : Decision} (h : Ruling k s r op d) :
    d.outcome = if suffice k s r op then .allowed else .neutral := by
  cases h with
  | any hany => simp [suffice, hany]
  | lacksAny hany hown => simp [suffice, hany, hown]
  | owner hany hown howns hholds => simp [suffice, hown, howns, hholds]
  | lacksBoth hany hown hnot => simpa [suffice, hany, hown] using hnot

end StockPermissions

namespace Chain

open DecisionTable

variable {k : Collaborators} {s : Subject} {r : Resource} {op : Operation}

/-- Where the second layer is asked, it lets through or leaves the first verdict standing. -/
theorem outcome_join {d e : Decision} (he : StockPermissions.Ruling k s r op e) :
    (join d e).outcome = if StockPermissions.suffice k s r op then .allowed else d.outcome := by
  have h := he.outcome_eq
  split at h
  · rename_i hs
    rw [if_pos hs, outcome_join_of_allowed h]
  · rename_i hs
    rw [if_neg hs, outcome_join_of_neutral h]

/-- The verdict of a request that is left to the grants: they allow it, refuse it, or say nothing,
and they say nothing about creation. -/
theorem outcome_of_left {rules : BundleRules} {d : Decision}
    (h : Resolver.Ruling k rules s r op d) (hleft : Resolver.LeftToGrants k rules s r op) :
    d.outcome =
      if op ≠ .create ∧ isGranted k rules s r op = true then .allowed
      else if op ≠ .create ∧ hasGrants k rules r = true then .forbidden
      else .neutral := by
  cases h with
  | locked hlocked => simp [hleft.unlocked rfl] at hlocked
  | admin hop hopen hadmin => simp [hleft.notAdmin hop] at hadmin
  | viewHeld hgated hall => exact absurd (hleft.notGated rfl) hgated
  | viewMissing hgated hmissing => exact absurd (hleft.notGated rfl) hgated
  | noGrants _ huses hnone => simp [isGranted, hasGrants, hnone]
  | notCovered _ huses hsome => simp
  | @granted _ g _ huses hop hfits =>
    have hany : (k.grantsFor r).any (k.fits s op) = true :=
      List.any_eq_true.mpr ⟨g, List.mem_of_find?_eq_some hfits, List.find?_some hfits⟩
    have hfields : (!rules.grantFields.isEmpty) = true := huses
    rw [if_pos ⟨hop, by rw [isGranted, hfields, hany]; rfl⟩]
    rfl
  | refused _ huses hop hsome hnone =>
    have hany : (k.grantsFor r).any (k.fits s op) = false := by
      simpa using hnone
    have hhas : hasGrants k rules r = true :=
      hasGrants_iff.mpr ⟨BundleRules.usesGrants_iff.mp huses, hsome⟩
    rw [if_neg (by simp [isGranted, hany]), if_pos ⟨hop, hhas⟩]
    rfl
  | noRules _ huses =>
    have hfields : (!rules.grantFields.isEmpty) = false := huses
    simp [isGranted, hasGrants, hfields]

/-- The verdict of the chain from that of the resolver: a verdict that is not final gives way to the
stock permissions, if they allow. -/
theorem outcome_check {bundles : BundleMap} {d : Decision}
    (hd : Resolver.Ruling k (bundles.rulesFor r.bundle) s r op d) :
    ((({ bundles, stock := true } : Chain).check s r op).eval k).outcome =
      if isFinal d r op = false ∧ StockPermissions.suffice k s r op = true then .allowed
      else d.outcome := by
  cases hfinal : isFinal d r op with
  | true =>
    rw [eval_of_final hd hfinal]
    simp
  | false =>
    have he := StockPermissions.ruling_eval k s r op
    rw [Ruling.eval_eq (.joined hd rfl hfinal he), outcome_join he]
    simp

/-- The same for a request that is left to the grants: short of a grant, the stock permissions help,
except that they do not open a view that the grants refuse. -/
theorem outcome_check_of_left {bundles : BundleMap}
    (hleft : Resolver.LeftToGrants k (bundles.rulesFor r.bundle) s r op) :
    ((({ bundles, stock := true } : Chain).check s r op).eval k).outcome =
      if op ≠ .create ∧ isGranted k (bundles.rulesFor r.bundle) s r op = true then .allowed
      else if op = .view ∧ hasGrants k (bundles.rulesFor r.bundle) r = true then .forbidden
      else if StockPermissions.suffice k s r op then .allowed
      else if op ≠ .create ∧ hasGrants k (bundles.rulesFor r.bundle) r = true then .forbidden
      else .neutral := by
  obtain ⟨d, hd⟩ := Resolver.exists_ruling k (bundles.rulesFor r.bundle) s r op
  have ho := outcome_of_left hd hleft
  rw [outcome_check hd]
  by_cases hg : op ≠ .create ∧ isGranted k (bundles.rulesFor r.bundle) s r op = true
  · rw [if_pos hg] at ho ⊢
    have hfinal : isFinal d r op = true := isFinal_iff.mpr (Or.inl ho)
    rw [if_neg (by simp [hfinal]), ho]
  · rw [if_neg hg] at ho ⊢
    by_cases hh : op ≠ .create ∧ hasGrants k (bundles.rulesFor r.bundle) r = true
    · rw [if_pos hh] at ho
      -- A refusal by the grants is final for a view and for nothing else.
      by_cases hview : op = .view
      · have hfinal : isFinal d r op = true := isFinal_iff.mpr (Or.inr ⟨ho, by rw [hview]; rfl⟩)
        rw [if_neg (by simp [hfinal]), if_pos ⟨hview, hh.2⟩, ho]
      · have hfinal : isFinal d r op = false := by
          rw [← Bool.not_eq_true, isFinal_iff_of_change hview hleft.unlocked, ho]
          simp
        have hnot : ¬ (op = .view ∧ hasGrants k (bundles.rulesFor r.bundle) r = true) :=
          fun h => hview h.1
        rw [if_neg hnot, if_pos hh, ho]
        simp [hfinal]
    · have hnot : ¬ (op = .view ∧ hasGrants k (bundles.rulesFor r.bundle) r = true) :=
        fun h => hh ⟨by simp [h.1], h.2⟩
      rw [if_neg hh] at ho
      have hfinal : isFinal d r op = false := by
        rw [← Bool.not_eq_true, isFinal_iff, ho]
        simp
      rw [if_neg hnot, if_neg hh, ho]
      simp [hfinal]

/-- The row of a change, once the lock is out of the way. -/
theorem outcome_check_change {bundles : BundleMap} {own : String} (hop : op ≠ .view)
    (hown : StockPermissions.ownPermission? r.bundle op = some own)
    (hopen : op = .delete → r.locked = false) :
    ((({ bundles, stock := true } : Chain).check s r op).eval k).outcome =
      change k (bundles.rulesFor r.bundle) s r op (StockPermissions.anyPermission r.bundle op)
        own := by
  have hcreate : op ≠ .create := fun h => by simp [h, StockPermissions.ownPermission?] at hown
  cases hadmin : k.holds s.roles ((bundles.rulesFor r.bundle).adminPermissionFor r) with
  | true =>
    have hd : Resolver.Ruling k _ s r op _ := .admin hop hopen hadmin
    rw [eval_of_final hd rfl]
    simp [change, hadmin]
  | false =>
    have hleft : Resolver.LeftToGrants k (bundles.rulesFor r.bundle) s r op :=
      ⟨hopen, fun _ => hadmin, fun h => absurd h hop⟩
    rw [outcome_check_of_left hleft]
    cases hg : isGranted k (bundles.rulesFor r.bundle) s r op with
    | true => simp [change, hcreate, hg]
    | false => simp [change, hadmin, hop, hcreate, hg, StockPermissions.suffice, hown]

/-- The row of a view. -/
theorem outcome_check_view {bundles : BundleMap} :
    ((({ bundles, stock := true } : Chain).check s r .view).eval k).outcome =
      view k (bundles.rulesFor r.bundle) s r := by
  by_cases hgated : (bundles.rulesFor r.bundle).viewPermissions = []
  · have hleft : Resolver.LeftToGrants k (bundles.rulesFor r.bundle) s r .view :=
      ⟨by simp, by simp, fun _ => hgated⟩
    rw [outcome_check_of_left hleft]
    cases hg : isGranted k (bundles.rulesFor r.bundle) s r .view with
    | true => simp [view, hgated, hg, hasGrants_of_isGranted hg]
    | false =>
      cases hh : hasGrants k (bundles.rulesFor r.bundle) r <;>
        simp [view, hgated, hg, hh, StockPermissions.suffice, StockPermissions.ownPermission?,
          StockPermissions.anyPermission, StockPermissions.accessContent]
  · cases hfind : ((bundles.rulesFor r.bundle).viewPermissionsFor r).find?
        (fun p => !k.holds s.roles.withoutAdministrator p) with
    | none =>
      have hall : ((bundles.rulesFor r.bundle).viewPermissionsFor r).all
          (k.holds s.roles.withoutAdministrator) = true := by
        simpa using hfind
      rw [eval_of_final (.viewHeld hgated hfind) rfl]
      simp [view, hgated, hall]
    | some p =>
      have hall : ((bundles.rulesFor r.bundle).viewPermissionsFor r).all
          (k.holds s.roles.withoutAdministrator) = false :=
        List.all_eq_false.mpr ⟨p, List.mem_of_find?_eq_some hfind, by
          simpa using List.find?_some hfind⟩
      rw [eval_of_final (.viewMissing hgated hfind) rfl]
      simp [view, hgated, hall]

/-- **The decision table of the chain.** When nobody fails, the chain comes to a decision, and its
verdict is the one in the table. -/
theorem check_table {ε : Type} (k : Collaborators) (bundles : BundleMap) (s : Subject)
    (r : Resource) (op : Operation) (past : List Question) :
    ∃ d : Decision,
      ((({ bundles, stock := true } : Chain).check s r op).run
        (k.respondent : Respondent ε) past).1 = .ok d ∧
      d.outcome = DecisionTable.outcome k (bundles.rulesFor r.bundle) s r op := by
  refine ⟨_, Consultation.run_respondent k past _, ?_⟩
  cases op with
  | view => exact outcome_check_view
  | update => exact outcome_check_change (by simp) rfl (by simp)
  | delete =>
    cases hlocked : r.locked with
    | true =>
      rw [eval_of_final (.locked hlocked) (by simp [isFinal, isOverridable, hlocked])]
      simp [DecisionTable.outcome, hlocked]
    | false =>
      rw [DecisionTable.outcome, if_neg (by simp [hlocked])]
      exact outcome_check_change (by simp) rfl fun _ => hlocked
  | create =>
    cases hadmin : k.holds s.roles ((bundles.rulesFor r.bundle).adminPermissionFor r) with
    | true =>
      rw [eval_of_final (.admin (by simp) (by simp) hadmin) rfl]
      simp [DecisionTable.outcome, hadmin]
    | false =>
      rw [outcome_check_of_left ⟨by simp, fun _ => hadmin, by simp⟩]
      simp [DecisionTable.outcome, hadmin, StockPermissions.suffice, StockPermissions.ownPermission?,
        StockPermissions.anyPermission]

end Chain

end AccessControl
