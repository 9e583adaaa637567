import AccessControl.Proofs.FilledTemplates

/-!
# How far a stock permission reaches

The names of stock permissions are put together around the name of a bundle, and bundles may be
called anything: that of `any article` has the permission `edit own any article content`, which the
bundle `article` might seem to have as well. It has not. The words in front of the bundle tell the
permissions of all bundles apart, since none of these openings is the beginning of another
(`Kind.eq_of_prefix_opening`): **from the name of a stock permission one can read its kind and its
bundle** (`Kind.permission_inj`).

So a stock permission that a role is given is asked for only where it is meant to be (`Kind.Reaches`):
for one operation, on the resources of one bundle, and if it is for owners then by the owner. Beyond
its reach nothing changes, neither the decisions nor the questions that lead to them. Within it the
permission lets everybody through who has the role.
-/

set_option autoImplicit false

namespace AccessControl

/-! ## What a procedure can come to -/

namespace Consultation

variable {ε α β : Type} {P : α → Prop} {Q : β → Prop}

/-- Whatever is answered, the result has a property. -/
def Yields (P : α → Prop) : Consultation α → Prop
  | .done a => P a
  | .ask _ next => ∀ answer, (next answer).Yields P

theorem Yields.bind {c : Consultation α} {f : α → Consultation β} (hf : ∀ a, (f a).Yields Q) :
    (c >>= f).Yields Q := by
  induction c with
  | done a => exact hf a
  | ask q next ih => exact ih

theorem Yields.of_run {respond : Respondent ε} {past : List Question} {c : Consultation α} {a : α}
    (hc : c.Yields P) (ha : (c.run respond past).1 = .ok a) : P a := by
  induction c generalizing past with
  | done b =>
    cases ha
    exact hc
  | ask q next ih =>
    simp only [run] at ha
    cases hanswer : respond past q with
    | ok answer =>
      rw [hanswer] at ha
      exact ih answer (hc answer) ha
    | error e =>
      rw [hanswer] at ha
      cases ha

end Consultation

namespace StockPermissions

/-! ## The permissions of a bundle -/

/-- The kinds of stock permissions, of which each bundle has one. -/
inductive Kind where
  | editAny
  | editOwn
  | deleteAny
  | deleteOwn
  | create
deriving DecidableEq

namespace Kind

/-- What a permission is for. -/
def operation : Kind → Operation
  | .editAny | .editOwn => .update
  | .deleteAny | .deleteOwn => .delete
  | .create => .create

/-- Whether a permission is of use to owners only. -/
def isForOwners : Kind → Bool
  | .editOwn | .deleteOwn => true
  | .editAny | .deleteAny | .create => false

/-- The words in front of the bundle. -/
def opening : Kind → String
  | .editAny => "edit any "
  | .editOwn => "edit own "
  | .deleteAny => "delete any "
  | .deleteOwn => "delete own "
  | .create => "create "

/-- The permission of a kind that a bundle has. -/
def permission (kind : Kind) (bundle : String) : String := kind.opening ++ bundle ++ " content"

variable {kind kind' : Kind} {bundle bundle' : String} {s : Subject} {r : Resource}
  {op : Operation} {roles : RoleSet}

/-- **No opening is the beginning of another.** -/
theorem eq_of_prefix_opening (h : kind.opening.toList <+: kind'.opening.toList) : kind = kind' := by
  cases kind <;> cases kind' <;> simp [opening] at h ⊢

theorem opening_prefix_permission (kind : Kind) (bundle : String) :
    kind.opening.toList <+: (kind.permission bundle).toList := by
  simp [permission]

theorem permission_inj (h : kind.permission bundle = kind'.permission bundle') :
    kind = kind' ∧ bundle = bundle' := by
  -- Both openings stand at the head of one text, so the shorter one is the beginning of the other.
  have hprefix := opening_prefix_permission kind bundle
  rw [h] at hprefix
  have hkind : kind = kind' := by
    rcases List.prefix_or_prefix_of_prefix hprefix (opening_prefix_permission kind' bundle') with
      hle | hge
    · exact eq_of_prefix_opening hle
    · exact (eq_of_prefix_opening hge).symm
  subst hkind
  refine ⟨rfl, ?_⟩
  simpa [permission, ← String.toList_inj] using h

theorem permission_ne_accessContent (kind : Kind) (bundle : String) :
    kind.permission bundle ≠ accessContent := by
  intro h
  have hprefix := opening_prefix_permission kind bundle
  rw [h] at hprefix
  cases kind <;> simp [opening, accessContent] at hprefix

/-! ## What a permission reaches -/

/-- A request that a stock permission of a bundle is for. -/
structure Reaches (kind : Kind) (bundle : String) (s : Subject) (r : Resource) (op : Operation) :
    Prop where
  operation : op = kind.operation
  bundle : r.bundle = bundle
  owner : kind.isForOwners = true → r.isOwnedBy s.id = true

theorem eq_anyPermission_iff :
    kind.permission bundle = anyPermission bundle' op ↔
      kind.isForOwners = false ∧ op = kind.operation ∧ bundle' = bundle := by
  constructor
  · intro h
    cases op with
    | view => exact absurd h (permission_ne_accessContent kind bundle)
    | update =>
      have hsame : kind.permission bundle = editAny.permission bundle' := h
      obtain ⟨rfl, rfl⟩ := permission_inj hsame
      exact ⟨rfl, rfl, rfl⟩
    | delete =>
      have hsame : kind.permission bundle = deleteAny.permission bundle' := h
      obtain ⟨rfl, rfl⟩ := permission_inj hsame
      exact ⟨rfl, rfl, rfl⟩
    | create =>
      have hsame : kind.permission bundle = create.permission bundle' := h
      obtain ⟨rfl, rfl⟩ := permission_inj hsame
      exact ⟨rfl, rfl, rfl⟩
  · rintro ⟨hall, rfl, rfl⟩
    cases kind with
    | editAny | deleteAny | create => rfl
    | editOwn | deleteOwn => cases hall

theorem ownPermission?_eq_iff :
    ownPermission? bundle' op = some (kind.permission bundle) ↔
      kind.isForOwners = true ∧ op = kind.operation ∧ bundle' = bundle := by
  constructor
  · intro h
    cases op with
    | view | create => cases h
    | update =>
      have hsame : editOwn.permission bundle' = kind.permission bundle := Option.some.inj h
      obtain ⟨rfl, rfl⟩ := permission_inj hsame
      exact ⟨rfl, rfl, rfl⟩
    | delete =>
      have hsame : deleteOwn.permission bundle' = kind.permission bundle := Option.some.inj h
      obtain ⟨rfl, rfl⟩ := permission_inj hsame
      exact ⟨rfl, rfl, rfl⟩
  · rintro ⟨hown, rfl, rfl⟩
    cases kind with
    | editOwn | deleteOwn => rfl
    | editAny | deleteAny | create => cases hown

/-- **A stock permission is asked for within its reach only**, and of all roles. -/
theorem reaches_of_occasion (h : Occasion s r op (.permission roles (kind.permission bundle))) :
    roles = s.roles ∧ kind.Reaches bundle s r op := by
  generalize hp : kind.permission bundle = p at h
  cases h with
  | any =>
    obtain ⟨hall, hop, hbundle⟩ := eq_anyPermission_iff.mp hp
    exact ⟨rfl, hop, hbundle, fun hown => by rw [hall] at hown; cases hown⟩
  | own hown howns =>
    obtain ⟨-, hop, hbundle⟩ := ownPermission?_eq_iff.mp (hown.trans (congrArg some hp.symm))
    exact ⟨rfl, hop, hbundle, fun _ => howns⟩

/-- Within its reach a stock permission is enough. -/
theorem Reaches.suffice {k : Collaborators} (h : kind.Reaches bundle s r op)
    (hholds : k.holds s.roles (kind.permission bundle) = true) : suffice k s r op = true := by
  rw [StockPermissions.suffice, Bool.or_eq_true]
  cases hown : kind.isForOwners with
  | false =>
    left
    rwa [← eq_anyPermission_iff.mpr ⟨hown, h.operation, h.bundle⟩]
  | true =>
    right
    rw [ownPermission?_eq_iff.mpr ⟨hown, h.operation, h.bundle⟩, Option.any_some, h.owner hown,
      hholds]
    rfl

end Kind

/-! ## Giving a role a stock permission -/

variable {ε : Type} {e : Policy.Environment} {role : RoleId} {kind : Kind} {bundle : String}
  {s : Subject} {r : Resource} {op : Operation}

/-- **Beyond the reach of a permission nothing is answered otherwise** once a role is given it, and
nothing at all to those who do not have the role. -/
theorem answer_granting {q : Question} (hout : ¬ (role ∈ s.roles ∧ kind.Reaches bundle s r op))
    (hq : Occasion s r op q) :
    (e.granting role (kind.permission bundle)).collaborators.answer q =
      e.collaborators.answer q := by
  cases q with
  | permission roles p =>
    show (e.registry.grant role (kind.permission bundle)).holds roles p = e.registry.holds roles p
    rw [Bool.eq_iff_iff, Registry.holds_grant_iff, or_iff_left_iff_imp]
    rintro ⟨hrole, rfl⟩
    obtain ⟨rfl, hreaches⟩ := Kind.reaches_of_occasion hq
    exact absurd ⟨hrole, hreaches⟩ hout
  | grants _ | member _ _ => rfl

theorem run_granting (hout : ¬ (role ∈ s.roles ∧ kind.Reaches bundle s r op)) :
    (check s r op).run
        ((e.granting role (kind.permission bundle)).collaborators.respondent : Respondent ε) [] =
      (check s r op).run (e.collaborators.respondent : Respondent ε) [] := by
  refine Consultation.run_congr fun before q after hasked => ?_
  have hmem : q ∈ (check s r op).asked (e.collaborators.respondent : Respondent ε) [] := by
    rw [hasked]
    exact List.mem_append_right before List.mem_cons_self
  have hq : Occasion s r op q := (check_asksOnly s r op).of_mem_asked hmem
  exact congrArg Except.ok (answer_granting hout hq)

theorem outcome_granting (hrole : role ∈ s.roles) (hreaches : kind.Reaches bundle s r op) :
    ((check s r op).eval
      (e.granting role (kind.permission bundle)).collaborators).outcome = .allowed := by
  have hholds : (e.granting role (kind.permission bundle)).collaborators.holds s.roles
      (kind.permission bundle) = true := Registry.holds_grant_iff.mpr (Or.inr ⟨hrole, rfl⟩)
  rw [(ruling_eval _ s r op).outcome_eq, if_pos (hreaches.suffice hholds)]

/-- Whoever answers, and whatever they answer, the layer does not forbid. -/
theorem check_yields (s : Subject) (r : Resource) (op : Operation) :
    (check s r op).Yields fun d => d.outcome = .allowed ∨ d.outcome = .neutral := by
  rw [check]
  refine Consultation.Yields.bind fun held => ?_
  split
  · exact Or.inl rfl
  · split
    · exact Or.inr rfl
    · refine Consultation.Yields.bind fun owns => ?_
      cases owns with
      | true => exact Or.inl rfl
      | false => exact Or.inr rfl

/-- **A stock permission opens what it is for, to those who are given it, and nothing else.** Say a
role is given a stock permission of some bundle, whatever the bundle is called.

* For other operations and for resources of other bundles the layer comes to the same decision, by
  the same questions; if the permission is for owners, also for everybody but the owner; and in any
  case for those who do not have the role.
* Whoever has the role is allowed the operation on the resources of the bundle, or on those that
  they own.
* The layer allows or leaves open; it forbids nothing, also if those who answer may fail. -/
theorem check_granting {ε : Type} (e : Policy.Environment) (role : RoleId) (kind : Kind)
    (bundle : String) (s : Subject) (r : Resource) (op : Operation) :
    (op ≠ kind.operation ∨ r.bundle ≠ bundle ∨
        (kind.isForOwners = true ∧ r.isOwnedBy s.id = false) ∨ role ∉ s.roles →
      (check s r op).run ((e.granting role (kind.permission bundle)).collaborators.respondent :
          Respondent ε) [] =
        (check s r op).run (e.collaborators.respondent : Respondent ε) [] ∧
      (check s r op).eval (e.granting role (kind.permission bundle)).collaborators =
        (check s r op).eval e.collaborators) ∧
    (op = kind.operation → r.bundle = bundle →
      (kind.isForOwners = true → r.isOwnedBy s.id = true) → role ∈ s.roles →
        ((check s r op).eval
          (e.granting role (kind.permission bundle)).collaborators).outcome = .allowed) ∧
    ∀ (respond : Respondent ε) (d : Decision),
      ((check s r op).run respond []).1 = .ok d → d.outcome ≠ .forbidden := by
  refine ⟨?_, ?_, ?_⟩
  · intro hbeyond
    have hout : ¬ (role ∈ s.roles ∧ kind.Reaches bundle s r op) := by
      rintro ⟨hrole, hreaches⟩
      rcases hbeyond with hop | hbundle | ⟨hown, hstranger⟩ | hnot
      · exact hop hreaches.operation
      · exact hbundle hreaches.bundle
      · rw [hreaches.owner hown] at hstranger
        cases hstranger
      · exact hnot hrole
    exact ⟨run_granting hout, (check_asksOnly s r op).eval_congr fun q => answer_granting hout⟩
  · intro hop hbundle howner hrole
    exact outcome_granting hrole ⟨hop, hbundle, howner⟩
  · intro respond d hd hforbidden
    rcases (check_yields s r op).of_run hd with h | h
    · rw [h] at hforbidden
      cases hforbidden
    · rw [h] at hforbidden
      cases hforbidden

/-! ### A bundle with a misleading name

What is given for one's own content of the bundle `any article` contains the name of the bundle
`article`, and all but the first words of the permission to edit any of it. -/

namespace Desk

def environment : Policy.Environment where
  registry := ∅
  membership := ∅
  store := ∅
  bundles := ∅
  resources := []

def granted : Policy.Environment :=
  environment.granting .authenticated (Kind.editOwn.permission "any article")

def draft : Resource := { Resource.plain ⟨7⟩ "any article" with owner := some ⟨1⟩ }

def article : Resource := { draft with bundle := "article" }

def author : Subject := .account ⟨1⟩ ∅

def colleague : Subject := .account ⟨2⟩ ∅

end Desk

/-- The author may update the draft. A colleague may not, the author may not delete it, and about the
article of the author nothing has changed either. -/
theorem draft_granted :
    Kind.editOwn.permission "any article" = "edit own any article content" ∧
    Desk.draft.isOwnedBy Desk.author.id = true ∧ .authenticated ∈ Desk.author.roles ∧
    ((check Desk.author Desk.draft .update).eval Desk.granted.collaborators).outcome = .allowed ∧
    Desk.draft.isOwnedBy Desk.colleague.id = false ∧
    (check Desk.colleague Desk.draft .update).eval Desk.granted.collaborators =
      (check Desk.colleague Desk.draft .update).eval Desk.environment.collaborators ∧
    (check Desk.author Desk.article .update).eval Desk.granted.collaborators =
      (check Desk.author Desk.article .update).eval Desk.environment.collaborators ∧
    (check Desk.author Desk.draft .delete).run
        (Desk.granted.collaborators.respondent : Respondent String) [] =
      (check Desk.author Desk.draft .delete).run
        (Desk.environment.collaborators.respondent : Respondent String) [] ∧
    ((check Desk.author Desk.draft .delete).eval Desk.granted.collaborators).outcome ≠
      .forbidden := by
  have howns : Desk.draft.isOwnedBy Desk.author.id = true := by decide
  have hrole : .authenticated ∈ Desk.author.roles := by decide
  have hstranger : Desk.draft.isOwnedBy Desk.colleague.id = false := by decide
  have happlied := check_granting (ε := String) Desk.environment .authenticated .editOwn "any article"
  obtain ⟨-, hallowed, -⟩ := happlied Desk.author Desk.draft .update
  obtain ⟨hcolleague, -, -⟩ := happlied Desk.colleague Desk.draft .update
  obtain ⟨harticle, -, -⟩ := happlied Desk.author Desk.article .update
  obtain ⟨hdelete, -, hopen⟩ := happlied Desk.author Desk.draft .delete
  refine ⟨by decide, howns, hrole, hallowed rfl rfl (fun _ => howns) hrole, hstranger, ?_, ?_, ?_,
    ?_⟩
  · exact (hcolleague (.inr (.inr (.inl ⟨rfl, hstranger⟩)))).2
  · exact (harticle (.inr (.inl (by decide)))).2
  · exact (hdelete (.inl nofun)).1
  · exact hopen _ _ (Consultation.run_respondent Desk.granted.collaborators [] _)

end StockPermissions

end AccessControl
