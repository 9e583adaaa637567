import AccessControl.Chain
import AccessControl.Proofs.Answering

/-!
# Refusals dealt with one by one

No consultation goes on after a refusal, because it is gone on from with an answer only. In a program
whose calls hand back an answer or a refusal this is not a matter of types: a refusal that is met can
be passed on, taken for a no, or forgotten, at every call anew. Here the procedures are written in
that way. Each is a function of the respondent and of what has been asked so far, it puts its
questions itself (`Respondent.put`), and **whatever is put or called has a case for the refusal**:
at the five questions, of the lock, of the view permissions, of the grants, of a membership and of the
stock permissions, and wherever one procedure calls another.

For each of them there is one lemma, which says that it does what the run of the consultation does.
So what is known of all runs is known of procedures that could do otherwise: a check fails if and
only if somebody refuses something that it asks, and then with that refusal and nothing asked after
it (`Chain.tryCheck_refused`).
-/

set_option autoImplicit false

namespace AccessControl

variable {ε : Type} {respond : Respondent ε} {past : List Question}

/-! ## Putting a question -/

/-- Puts one question: the answer or the refusal, and what has been asked by then. -/
def Respondent.put (respond : Respondent ε) (past : List Question) (q : Question) :
    Except ε q.Answer × List Question :=
  (respond past q, past ++ [q])

theorem Consultation.run_ask_done (q : Question) :
    (ask q done).run respond past = respond.put past q := by
  simp only [run, Respondent.put]
  cases respond past q <;> rfl

theorem Consultation.run_holds (roles : RoleSet) (p : String) :
    (holds roles p).run respond past = respond.put past (.permission roles p) :=
  run_ask_done _

theorem Consultation.run_grantsOf (r : Resource) :
    (grantsOf r).run respond past = respond.put past (.grants r) :=
  run_ask_done _

theorem Consultation.run_isMember (subject : SubjectId) (group : GroupId) :
    (isMember subject group).run respond past = respond.put past (.member subject group) :=
  run_ask_done _

variable {bundles : BundleMap} {rules : BundleRules} {s : Subject} {r : Resource} {op : Operation}

/-! ## The lock -/

namespace Lock

/-- The decision of the lock and of the admin permission. -/
def tryCheck (respond : Respondent ε) (s : Subject) (r : Resource) (op : Operation)
    (adminPermission : String) (past : List Question) :
    Except ε (Option Decision) × List Question :=
  if op == .delete && r.locked then
    (.ok (some ((Decision.forbidden reason).withTag r.cacheTag)), past)
  else if op == .view then (.ok none, past)
  else
    match respond.put past (.permission s.roles adminPermission) with
    | (.error e, past) => (.error e, past)
    | (.ok true, past) =>
      (.ok (some (Decision.allowed (holdsReason adminPermission)).perPermissions), past)
    | (.ok false, past) => (.ok none, past)

theorem run_check (p : String) :
    (check s r op p).run respond past = tryCheck respond s r op p past := by
  unfold check tryCheck
  split
  · rfl
  · split
    · rfl
    · show Consultation.run respond past (Consultation.holds s.roles p >>= _) = _
      rw [Consultation.run_bind, Consultation.run_holds]
      rcases respond.put past (.permission s.roles p) with ⟨e | held, past⟩
      · rfl
      · cases held <;> rfl

end Lock

/-! ## The resolver -/

namespace Resolver

/-- The first of some permissions that the roles do not give. -/
def tryFirstMissing (respond : Respondent ε) (roles : RoleSet) :
    List String → List Question → Except ε (Option String) × List Question
  | [], past => (.ok none, past)
  | permission :: rest, past =>
    match respond.put past (.permission roles permission) with
    | (.error e, past) => (.error e, past)
    | (.ok true, past) => tryFirstMissing respond roles rest past
    | (.ok false, past) => (.ok (some permission), past)

/-- Viewing by permissions. -/
def tryViewPermissions (respond : Respondent ε) (s : Subject) (r : Resource) (rules : BundleRules)
    (past : List Question) : Except ε Decision × List Question :=
  match tryFirstMissing respond s.roles.withoutAdministrator (rules.viewPermissionsFor r) past with
  | (.error e, past) => (.error e, past)
  | (.ok missing, past) =>
    (.ok (Decision.allowedIf missing.isNone "all view permissions held"
      ("missing permission '" ++ missing.getD "" ++ "'")).perPermissions, past)

/-- Whether a grant gives an operation to a subject as a member of its group. -/
def tryAppliesToMember (respond : Respondent ε) (s : Subject) (g : Grant) (op : Operation)
    (past : List Question) : Except ε Bool × List Question :=
  if !g.givesMembers op || s.isAnonymous then (.ok false, past)
  else
    match s.id, g.target with
    | some subject, some group => respond.put past (.member subject group)
    | _, _ => (.ok false, past)

/-- The loop over the grants. -/
def tryEvaluate (respond : Respondent ε) (s : Subject) (r : Resource) (op : Operation) :
    List Grant → List Question → Except ε Decision × List Question
  | [], past => (.ok (byGrants (Decision.forbidden ("no grant allows " ++ op.name)) r op), past)
  | g :: rest, past =>
    if g.isMalformed then tryEvaluate respond s r op rest past
    else if g.givesEveryone op then
      (.ok (byGrants (Decision.allowed (publicReason g)) r op), past)
    else
      match tryAppliesToMember respond s g op past with
      | (.error e, past) => (.error e, past)
      | (.ok true, past) => (.ok (byGrants (Decision.allowed (memberReason g op)) r op), past)
      | (.ok false, past) => tryEvaluate respond s r op rest past

/-- The decision of the grants of a resource. -/
def tryGrants (respond : Respondent ε) (s : Subject) (r : Resource) (op : Operation)
    (past : List Question) : Except ε Decision × List Question :=
  match respond.put past (.grants r) with
  | (.error e, past) => (.error e, past)
  | (.ok grants, past) =>
    if grants.isEmpty then
      (.ok ((Decision.neutral "resource has no grants").withTag r.cacheTag), past)
    else if op == .create then
      (.ok ((Decision.neutral "grants do not cover create").withTag r.cacheTag), past)
    else tryEvaluate respond s r op grants past

/-- What the rules say about a request that the lock and the admin permission leave open. -/
def tryRules (respond : Respondent ε) (rules : BundleRules) (s : Subject) (r : Resource)
    (op : Operation) (past : List Question) : Except ε Decision × List Question :=
  if op == .view && !rules.viewPermissions.isEmpty then tryViewPermissions respond s r rules past
  else if rules.usesGrants then tryGrants respond s r op past
  else (.ok (Decision.neutral (noRulesReason op r.bundle)), past)

/-- Decides a request from bundle rules and grants. -/
def tryResolve (respond : Respondent ε) (bundles : BundleMap) (s : Subject) (r : Resource)
    (op : Operation) (past : List Question) : Except ε Decision × List Question :=
  let rules := bundles.rulesFor r.bundle
  match Lock.tryCheck respond s r op (rules.adminPermissionFor r) past with
  | (.error e, past) => (.error e, past)
  | (.ok (some d), past) => (.ok d, past)
  | (.ok none, past) => tryRules respond rules s r op past

theorem run_firstMissing (roles : RoleSet) (permissions : List String) :
    (firstMissing roles permissions).run respond past =
      tryFirstMissing respond roles permissions past := by
  induction permissions generalizing past with
  | nil => rfl
  | cons p rest ih =>
    rw [firstMissing, tryFirstMissing, Consultation.run_bind, Consultation.run_holds]
    rcases respond.put past (.permission roles p) with ⟨e | held, past⟩
    · rfl
    · cases held with
      | true => exact ih
      | false => rfl

theorem run_checkViewPermissions :
    (checkViewPermissions s r rules).run respond past =
      tryViewPermissions respond s r rules past := by
  rw [checkViewPermissions, tryViewPermissions, Consultation.run_bind, run_firstMissing]
  rcases tryFirstMissing respond _ _ past with ⟨e | missing, past⟩
  · rfl
  · rfl

theorem run_appliesToMember (g : Grant) :
    (appliesToMember s g op).run respond past = tryAppliesToMember respond s g op past := by
  unfold appliesToMember tryAppliesToMember
  split
  · rfl
  · cases s.id with
    | none => rfl
    | some subject =>
      cases g.target with
      | none => rfl
      | some group => exact Consultation.run_isMember subject group

theorem run_evaluate (grants : List Grant) :
    (evaluate s r op grants).run respond past = tryEvaluate respond s r op grants past := by
  induction grants generalizing past with
  | nil => rfl
  | cons g rest ih =>
    rw [evaluate, tryEvaluate]
    split
    · exact ih
    · split
      · rfl
      · rw [Consultation.run_bind, run_appliesToMember]
        rcases tryAppliesToMember respond s g op past with ⟨e | applies, past⟩
        · rfl
        · cases applies with
          | true => rfl
          | false => exact ih

theorem run_checkGrants :
    (checkGrants s r op).run respond past = tryGrants respond s r op past := by
  rw [checkGrants, tryGrants, Consultation.run_bind, Consultation.run_grantsOf]
  rcases respond.put past (.grants r) with ⟨e | grants, past⟩
  · rfl
  · show Consultation.run respond past (if grants.isEmpty then _ else _) =
      if grants.isEmpty then _ else _
    split
    · rfl
    · split
      · rfl
      · exact run_evaluate grants

theorem run_applyRules :
    (applyRules rules s r op).run respond past = tryRules respond rules s r op past := by
  unfold applyRules tryRules
  split
  · exact run_checkViewPermissions
  · split
    · exact run_checkGrants
    · rfl

theorem run_resolve :
    (resolve bundles s r op).run respond past = tryResolve respond bundles s r op past := by
  rw [resolve, tryResolve, Consultation.run_bind, Lock.run_check]
  rcases Lock.tryCheck respond s r op _ past with ⟨e | settled, past⟩
  · rfl
  · cases settled with
    | some d => rfl
    | none => exact run_applyRules

end Resolver

/-! ## The stock permissions -/

namespace StockPermissions

/-- Whether the subject owns the resource and holds the permission for owners. -/
def tryOwnerHolds (respond : Respondent ε) (s : Subject) (r : Resource) (own : String)
    (past : List Question) : Except ε Bool × List Question :=
  if r.isOwnedBy s.id then respond.put past (.permission s.roles own) else (.ok false, past)

/-- The decision of the stock permissions. -/
def tryCheck (respond : Respondent ε) (s : Subject) (r : Resource) (op : Operation)
    (past : List Question) : Except ε Decision × List Question :=
  let any := anyPermission r.bundle op
  match respond.put past (.permission s.roles any) with
  | (.error e, past) => (.error e, past)
  | (.ok true, past) => (.ok (Decision.allowed (Lock.holdsReason any)).perPermissions, past)
  | (.ok false, past) =>
    match ownPermission? r.bundle op with
    | none => (.ok (Decision.neutral ("subject lacks '" ++ any ++ "'")).perPermissions, past)
    | some own =>
      match tryOwnerHolds respond s r own past with
      | (.error e, past) => (.error e, past)
      | (.ok held, past) =>
        let decision :=
          if held then Decision.allowed ("subject owns resource and has '" ++ own ++ "'")
          else Decision.neutral ("subject lacks '" ++ any ++ "' and '" ++ own ++ "'")
        (.ok ((decision.perPermissions.withContext Decision.subjectContext).withTag r.cacheTag),
          past)

theorem run_ownerHolds (own : String) :
    (ownerHolds s r own).run respond past = tryOwnerHolds respond s r own past := by
  unfold ownerHolds tryOwnerHolds
  split
  · exact Consultation.run_holds _ _
  · rfl

theorem run_check :
    (check s r op).run respond past = tryCheck respond s r op past := by
  rw [check, tryCheck, Consultation.run_bind, Consultation.run_holds]
  rcases respond.put past (.permission s.roles (anyPermission r.bundle op)) with ⟨e | held, past⟩
  · rfl
  · cases held with
    | true => rfl
    | false =>
      cases hown : ownPermission? r.bundle op with
      | none => rfl
      | some own =>
        show Consultation.run respond past (ownerHolds s r own >>= _) = _
        rw [Consultation.run_bind, run_ownerHolds]
        dsimp only
        rcases tryOwnerHolds respond s r own past with ⟨e | holds, past⟩
        · rfl
        · rfl

end StockPermissions

/-! ## The chain -/

namespace Chain

/-- The decision of the chain. -/
def tryCheck (c : Chain) (respond : Respondent ε) (s : Subject) (r : Resource) (op : Operation)
    (past : List Question) : Except ε Decision × List Question :=
  match Resolver.tryResolve respond c.bundles s r op past with
  | (.error e, past) => (.error e, past)
  | (.ok first, past) =>
    if !c.stock || isFinal first r op then (.ok first, past)
    else
      match StockPermissions.tryCheck respond s r op past with
      | (.error e, past) => (.error e, past)
      | (.ok second, past) => (.ok (join first second), past)

theorem run_check (c : Chain) :
    (c.check s r op).run respond past = c.tryCheck respond s r op past := by
  rw [check, tryCheck, Consultation.run_bind, Resolver.run_resolve]
  rcases Resolver.tryResolve respond c.bundles s r op past with ⟨e | first, past⟩
  · rfl
  · show Consultation.run respond past (if !c.stock || isFinal first r op then _ else _) =
      if !c.stock || isFinal first r op then _ else _
    split
    · rfl
    · show Consultation.run respond past (StockPermissions.check s r op >>= _) = _
      rw [Consultation.run_bind, StockPermissions.run_check]
      rcases StockPermissions.tryCheck respond s r op past with ⟨e | second, past⟩
      · rfl
      · rfl

/-- **A check fails with the refusal of what it asked last**, and by no other way: everything that it
asked before was answered. -/
theorem tryCheck_refused (c : Chain) (respond : Respondent ε) (s : Subject) (r : Resource)
    (op : Operation) :
    (∀ e, (c.tryCheck respond s r op []).1 = .error e ↔
      ∃ before q, (c.tryCheck respond s r op []).2 = before ++ [q] ∧ respond before q = .error e) ∧
    ∀ before q after, (c.tryCheck respond s r op []).2 = before ++ q :: after → after ≠ [] →
      ∃ answer, respond before q = .ok answer := by
  rw [← run_check]
  have hfaithful := Consultation.faithful respond (c.check s r op)
  refine ⟨?_, ?_⟩
  · intro e
    constructor
    · intro he
      obtain ⟨before, q, e', hasks, hrefused⟩ := hfaithful.error_iff.mp ⟨e, he⟩
      have hrun := hfaithful.refused before q e' hasks hrefused
      rw [hrun] at he ⊢
      cases he
      exact ⟨before, q, rfl, hrefused⟩
    · rintro ⟨before, q, hasked, hrefused⟩
      rw [hfaithful.refused before q e ⟨[], hasked⟩ hrefused]
  · intro before q after hasked hafter
    cases hresponse : respond before q with
    | ok answer => exact ⟨answer, rfl⟩
    | error e =>
      -- A refused question is the last one.
      rw [hfaithful.refused before q e ⟨after, hasked⟩ hresponse] at hasked
      exact absurd (List.cons.inj (List.append_cancel_left hasked)).2.symm hafter

end Chain

end AccessControl
