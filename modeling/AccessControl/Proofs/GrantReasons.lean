import AccessControl.Proofs.Numerals
import AccessControl.Proofs.Occasions
import AccessControl.Proofs.StoreHistory

/-!
# The reason that grants give

A decision by grants says in its reason which group let the subject through, and people will take
that for the truth. It is: the reason names the group of **the first grant that opens the operation
to the subject** (`Opens`), in the order of the store, and there is no reason without a group
(`Resolver.granted_explained`).

Which grant is first is the only thing that the order has a say in. With the same grants in another
order, repeated, or spread over other fields, another grant may come first, but one comes first in
either case or in neither, and contexts and tags do not depend on which
(`Resolver.GrantsDecide.eval_eq_but_reason`). A request has come to the grants when the store has
been asked for them (`Resolver.leftToGrants_of_asked`).
-/

set_option autoImplicit false

namespace AccessControl

/-- A grant opens an operation to a subject by way of its group. -/
inductive Opens (isMember : SubjectId → GroupId → Bool) (s : Subject) (op : Operation) (g : Grant)
    (group : GroupId) : Prop
  /-- Everyone may view. -/
  | everyone (htarget : g.target = some group) (hview : op = .view) (hpublic : g.isPublic = true)
  /-- Members may do the operation, and the subject is one who is not anonymous. -/
  | member {subject : SubjectId} (htarget : g.target = some group)
      (hgives : g.givesMembers op = true) (hknown : s.isAnonymous = false)
      (hid : s.id = some subject) (hmember : isMember subject group = true)

variable {isMember : SubjectId → GroupId → Bool} {k : Collaborators} {s : Subject} {r : Resource}
  {op : Operation} {g : Grant} {group : GroupId}

theorem Opens.target (h : Opens isMember s op g group) : g.target = some group := by
  cases h with
  | everyone htarget _ _ | member htarget _ _ _ _ => exact htarget

theorem opens_iff :
    Opens k.isMember s op g group ↔
      g.target = some group ∧
        (g.givesEveryone op = true ∨ g.givesMembers op = true ∧ k.places s group = true) := by
  rw [Grant.givesEveryone_iff, Collaborators.places_iff]
  constructor
  · intro h
    cases h with
    | everyone htarget hview hpublic => exact ⟨htarget, Or.inl ⟨hview, hpublic⟩⟩
    | member htarget hgives hknown hid hmember =>
      exact ⟨htarget, Or.inr ⟨hgives, hknown, _, hid, hmember⟩⟩
  · intro h
    rcases h with ⟨htarget, ⟨hview, hpublic⟩ | ⟨hgives, hknown, subject, hid, hmember⟩⟩
    · exact .everyone htarget hview hpublic
    · exact .member htarget hgives hknown hid hmember

theorem fits_iff_opens : k.fits s op g = true ↔ ∃ group, Opens k.isMember s op g group := by
  simp only [Collaborators.fits_iff, opens_iff]

/-- Items that are spread over other fields, in whatever order, stand for the same grants. -/
theorem Store.mem_grantsFor_of_spread {store store' : Store}
    (h : ∀ item, (∃ field, item ∈ store'.itemsOf r.key field) ↔
      ∃ field, item ∈ store.itemsOf r.key field) (g : Grant) :
    g ∈ store'.grantsFor r ↔ g ∈ store.grantsFor r := by
  rw [Store.mem_grantsFor, Store.mem_grantsFor]
  constructor
  · rintro ⟨field, item, hitem, hg⟩
    obtain ⟨other, hother⟩ := (h item).mp ⟨field, hitem⟩
    exact ⟨other, item, hother, hg⟩
  · rintro ⟨field, item, hitem, hg⟩
    obtain ⟨other, hother⟩ := (h item).mpr ⟨field, hitem⟩
    exact ⟨other, item, hother, hg⟩

/-! ## The texts -/

theorem publicReason_ne (o : Operation) (text : String) :
    "public grant via group " ++ text ≠ "public grant" ∧
      "public grant via group " ++ text ≠ o.name ++ " granted to group " := by
  constructor
  · intro h
    have hlength := congrArg String.length h
    simp only [String.length_append] at hlength
    have hshort : "public grant".length < "public grant via group ".length := by decide
    omega
  · intro h
    have hfirst := congrArg (fun t : String => t.toList.head?) h
    cases o <;> simp [Operation.name] at hfirst

theorem memberReason_ne (op o : Operation) {text : String} (htext : text ≠ "") :
    op.name ++ " granted to group " ++ text ≠ "public grant" ∧
      op.name ++ " granted to group " ++ text ≠ o.name ++ " granted to group " := by
  constructor
  · intro h
    have hfirst := congrArg (fun t : String => t.toList.head?) h
    cases op <;> simp [Operation.name] at hfirst
  · intro h
    -- No two operations have the same first letter, so the same operation is named.
    have hop : op = o := by
      have hfirst := congrArg (fun t : String => t.toList.head?) h
      cases op <;> cases o <;> simp [Operation.name] at hfirst ⊢
    subst hop
    have hlength := congrArg String.length h
    simp only [String.length_append] at hlength
    exact htext (String.length_eq_zero_iff.mp (by omega))

theorem refusedReason_ne (op o : Operation) :
    "no grant allows " ++ op.name ≠ "public grant" ∧
      "no grant allows " ++ op.name ≠ o.name ++ " granted to group " := by
  constructor
  · intro h
    have hfirst := congrArg (fun t : String => t.toList.head?) h
    simp at hfirst
  · intro h
    have hfirst := congrArg (fun t : String => t.toList.head?) h
    cases o <;> simp [Operation.name] at hfirst

namespace Resolver

theorem fitReason_of_opens (h : Opens k.isMember s op g group) :
    fitReason g op =
      if op = .view ∧ g.isPublic = true then "public grant via group " ++ group.text
      else op.name ++ " granted to group " ++ group.text := by
  simp only [fitReason, publicReason, memberReason, h.target, Option.map_some, Option.getD_some,
    Grant.givesEveryone_iff]

/-- What leaves a request to the grants has nothing to do with which there are. -/
theorem LeftToGrants.withGrants {rules : BundleRules} {grantsFor : Resource → List Grant}
    (h : LeftToGrants k rules s r op) : LeftToGrants { k with grantsFor } rules s r op :=
  ⟨h.unlocked, h.notAdmin, h.notGated⟩

/-! ## What the grants decide -/

/-- A request that comes to the grants, of which there are some, and that they cover. -/
structure GrantsDecide (k : Collaborators) (rules : BundleRules) (s : Subject) (r : Resource)
    (op : Operation) : Prop extends LeftToGrants k rules s r op where
  uses : rules.usesGrants = true
  covered : op ≠ .create
  nonempty : k.grantsFor r ≠ []

namespace GrantsDecide

variable {bundles : BundleMap} {grantsFor : Resource → List Grant}

theorem eval_eq (h : GrantsDecide k (bundles.rulesFor r.bundle) s r op) :
    (resolve bundles s r op).eval k =
      match (k.grantsFor r).find? (k.fits s op) with
      | some g => byGrants (Decision.allowed (fitReason g op)) r op
      | none => byGrants (Decision.forbidden ("no grant allows " ++ op.name)) r op := by
  have hloop : (resolve bundles s r op).eval k = (evaluate s r op (k.grantsFor r)).eval k := by
    rw [h.toLeftToGrants.eval_resolve, if_pos h.uses, eval_checkGrants,
      if_neg (by simpa using h.nonempty), if_neg (by simpa using h.covered)]
  exact hloop.trans (eval_evaluate (k.grantsFor r))

/-- The first grant that opens the operation decides, and the reason names its group. -/
theorem explained (h : GrantsDecide k (bundles.rulesFor r.bundle) s r op) :
    (∃ before g after group, k.grantsFor r = before ++ g :: after ∧
      (∀ earlier ∈ before, ∀ other, ¬ Opens k.isMember s op earlier other) ∧
      Opens k.isMember s op g group ∧
      (resolve bundles s r op).eval k =
        byGrants (Decision.allowed
          (if op = .view ∧ g.isPublic = true then "public grant via group " ++ group.text
            else op.name ++ " granted to group " ++ group.text)) r op) ∨
    (∀ g ∈ k.grantsFor r, ∀ group, ¬ Opens k.isMember s op g group) ∧
      (resolve bundles s r op).eval k =
        byGrants (Decision.forbidden ("no grant allows " ++ op.name)) r op := by
  have hopens : ∀ {g group}, k.fits s op g = false → ¬ Opens k.isMember s op g group := by
    intro g group hfits hopens
    rw [fits_iff_opens.mpr ⟨group, hopens⟩] at hfits
    cases hfits
  rw [h.eval_eq]
  cases hfound : (k.grantsFor r).find? (k.fits s op) with
  | some g =>
    obtain ⟨hfits, before, after, hgrants, hbefore⟩ := List.find?_eq_some_iff_append.mp hfound
    obtain ⟨group, hgroup⟩ := fits_iff_opens.mp hfits
    refine Or.inl ⟨before, g, after, group, hgrants, ?_, hgroup, ?_⟩
    · intro earlier hearlier other
      exact hopens (by simpa using hbefore earlier hearlier)
    · rw [← fitReason_of_opens hgroup]
  | none =>
    refine Or.inr ⟨?_, rfl⟩
    intro g hg group
    exact hopens (by simpa using List.find?_eq_none.mp hfound g hg)

theorem mem_contexts_iff (h : GrantsDecide k (bundles.rulesFor r.bundle) s r op) (x : String) :
    x ∈ ((resolve bundles s r op).eval k).contexts ↔ x = Decision.grantsContext op := by
  rcases h.explained with ⟨_, _, _, _, -, -, -, heq⟩ | ⟨-, heq⟩
  all_goals
    rw [heq]
    simp [byGrants, eq_comm (a := x)]

theorem mem_tags_iff (h : GrantsDecide k (bundles.rulesFor r.bundle) s r op) (t : String) :
    t ∈ ((resolve bundles s r op).eval k).tags ↔ t = r.cacheTag := by
  rcases h.explained with ⟨_, _, _, _, -, -, -, heq⟩ | ⟨-, heq⟩
  all_goals
    rw [heq]
    simp [byGrants, eq_comm (a := t)]

/-- No reason breaks off where a group should be named. -/
theorem reason_ne (h : GrantsDecide k (bundles.rulesFor r.bundle) s r op) (o : Operation) :
    ((resolve bundles s r op).eval k).reason ≠ "public grant" ∧
      ((resolve bundles s r op).eval k).reason ≠ o.name ++ " granted to group " := by
  rcases h.explained with ⟨_, g, _, group, -, -, -, heq⟩ | ⟨-, heq⟩
  · rw [heq]
    show (if op = .view ∧ g.isPublic = true then _ else _) ≠ _ ∧ (if _ then _ else _) ≠ _
    split
    · exact publicReason_ne o group.text
    · exact memberReason_ne op o group.text_ne_empty
  · rw [heq]
    exact refusedReason_ne op o

/-- The same grants decide, in whatever order and however often each is there. -/
theorem rearranged (h : GrantsDecide k (bundles.rulesFor r.bundle) s r op)
    (hsame : ∀ g, g ∈ grantsFor r ↔ g ∈ k.grantsFor r) :
    GrantsDecide { k with grantsFor } (bundles.rulesFor r.bundle) s r op where
  toLeftToGrants := h.toLeftToGrants.withGrants
  uses := h.uses
  covered := h.covered
  nonempty hnil := by
    obtain ⟨g, hg⟩ := List.exists_mem_of_ne_nil _ h.nonempty
    rw [← hsame, show grantsFor r = [] from hnil] at hg
    exact List.not_mem_nil hg

/-- **Order and repetition of the grants matter to the reason alone.** -/
theorem eval_eq_but_reason (h : GrantsDecide k (bundles.rulesFor r.bundle) s r op)
    (hsame : ∀ g, g ∈ grantsFor r ↔ g ∈ k.grantsFor r) :
    (resolve bundles s r op).eval { k with grantsFor } =
      { (resolve bundles s r op).eval k with
        reason := ((resolve bundles s r op).eval { k with grantsFor }).reason } := by
  have hfits : ({ k with grantsFor } : Collaborators).fits s op = k.fits s op := rfl
  rw [(h.rearranged hsame).eval_eq, h.eval_eq, hfits]
  show (match (grantsFor r).find? (k.fits s op) with | some g => _ | none => _) = _
  cases hfound : (k.grantsFor r).find? (k.fits s op) with
  | some g =>
    -- The grant that is first in the one list is in the other, where it need not be the first.
    obtain ⟨g', hg'⟩ := Collaborators.exists_first_of_fits
      ((hsame g).mpr (List.mem_of_find?_eq_some hfound)) (List.find?_some hfound)
    rw [hg']
    rfl
  | none =>
    have hnowhere : (grantsFor r).find? (k.fits s op) = none := by
      rw [List.find?_eq_none] at hfound ⊢
      intro g hg
      exact hfound g ((hsame g).mp hg)
    rw [hnowhere]

end GrantsDecide

/-- **Where the store has been asked the request has come to the grants.** -/
theorem leftToGrants_of_asked {ε : Type} {bundles : BundleMap}
    (h : .grants r ∈ ((resolve bundles s r op).run (k.respondent : Respondent ε) []).2) :
    (bundles.rulesFor r.bundle).usesGrants = true ∧
      LeftToGrants k (bundles.rulesFor r.bundle) s r op := by
  rw [Consultation.run_snd, List.nil_append, resolve, Consultation.asked_bind,
    Consultation.run_respondent, List.mem_append] at h
  rcases h with hlock | hrules
  · obtain ⟨-, -, hquestion⟩ := (lock_asksOnly _).of_mem_asked hlock
    cases hquestion
  · cases hlock : (Lock.check s r op ((bundles.rulesFor r.bundle).adminPermissionFor r)).eval k with
    | some d =>
      rw [hlock] at hrules
      exact absurd hrules List.not_mem_nil
    | none =>
      obtain ⟨hopen, hadmin⟩ := of_eval_lock_eq_none hlock
      rw [hlock] at hrules
      simp only [applyRules] at hrules
      split at hrules
      · obtain ⟨p, -, hquestion⟩ := (checkViewPermissions_asksOnly _).of_mem_asked hrules
        cases hquestion
      · rename_i hgate
        split at hrules
        · rename_i huses
          exact ⟨huses, hopen, hadmin, by simpa using hgate⟩
        · exact absurd hrules List.not_mem_nil

/-- **The grants explain what they decide.** In a request for anything but a creation in which the
grants of a resource have been asked for and there are some, the resolver comes to a decision, and

* either there is a first grant that opens the operation to the subject, and the decision allows it
  and names the group of that grant, as that of a grant for everyone if it is one and a view is
  asked for, or no grant opens it, and the decision refuses it;
* the decision varies by the grants for the operation and is about the resource, and it has no other
  context or tag;
* no reason breaks off where a group should be named;
* the same grants in another order, or repeated, give the same decision but for the reason, and so
  do the same items when they are spread over other fields. -/
theorem granted_explained {ε : Type} (k : Collaborators) (bundles : BundleMap) (s : Subject)
    (r : Resource) (op : Operation) (hop : op ≠ .create)
    (hasked : .grants r ∈ ((resolve bundles s r op).run (k.respondent : Respondent ε) []).2)
    (hsome : k.grantsFor r ≠ []) :
    ∃ d, ((resolve bundles s r op).run (k.respondent : Respondent ε) []).1 = .ok d ∧
      ((∃ before g after group, k.grantsFor r = before ++ g :: after ∧
          (∀ earlier ∈ before, ∀ other, ¬ Opens k.isMember s op earlier other) ∧
          Opens k.isMember s op g group ∧
          d.outcome = .allowed ∧
          d.reason =
            (if op = .view ∧ g.isPublic = true then "public grant via group " ++ group.text
              else op.name ++ " granted to group " ++ group.text)) ∨
        (∀ g ∈ k.grantsFor r, ∀ group, ¬ Opens k.isMember s op g group) ∧
          d.outcome = .forbidden ∧ d.reason = "no grant allows " ++ op.name) ∧
      (∀ x, x ∈ d.contexts ↔ x = Decision.grantsContext op) ∧
      (∀ t, t ∈ d.tags ↔ t = r.cacheTag) ∧
      d.reason ≠ "public grant" ∧ (∀ o : Operation, d.reason ≠ o.name ++ " granted to group ") ∧
      (∀ grantsFor : Resource → List Grant, (∀ g, g ∈ grantsFor r ↔ g ∈ k.grantsFor r) →
        ∃ d', ((resolve bundles s r op).run
            (({ k with grantsFor } : Collaborators).respondent : Respondent ε) []).1 = .ok d' ∧
          d' = { d with reason := d'.reason }) ∧
      (∀ store store' : Store, store.grantsFor r = k.grantsFor r →
        (∀ item, (∃ field, item ∈ store'.itemsOf r.key field) ↔
          ∃ field, item ∈ store.itemsOf r.key field) →
        ∃ d', ((resolve bundles s r op).run
            (({ k with grantsFor := store'.grantsFor } : Collaborators).respondent : Respondent ε)
            []).1 = .ok d' ∧
          d' = { d with reason := d'.reason }) := by
  obtain ⟨huses, hleft⟩ := leftToGrants_of_asked hasked
  have h : GrantsDecide k (bundles.rulesFor r.bundle) s r op := ⟨hleft, huses, hop, hsome⟩
  refine ⟨_, Consultation.run_respondent k [] _, ?_, h.mem_contexts_iff, h.mem_tags_iff,
    (h.reason_ne op).1, fun o => (h.reason_ne o).2, ?_, ?_⟩
  · rcases h.explained with ⟨before, g, after, group, hgrants, hbefore, hg, heq⟩ | ⟨hnone, heq⟩
    · rw [heq]
      exact Or.inl ⟨before, g, after, group, hgrants, hbefore, hg, rfl, rfl⟩
    · rw [heq]
      exact Or.inr ⟨hnone, rfl, rfl⟩
  · intro grantsFor hsame
    exact ⟨_, Consultation.run_respondent _ [] _, h.eval_eq_but_reason hsame⟩
  · intro store store' hstore hitems
    refine ⟨_, Consultation.run_respondent _ [] _, h.eval_eq_but_reason fun g => ?_⟩
    rw [← hstore]
    exact Store.mem_grantsFor_of_spread hitems g

/-! ### On the notice board

Four grants to update: one without a group, one for a group that the editor is not in, and two for
the editor's own group, of which the first is for everyone to view as well. -/

namespace NoticeBoard

def grant (group : Option GroupId) (isPublic : Bool) : Grant :=
  { target := group, isPublic, view := false, update := true, delete := false }

def grants : List Grant :=
  [grant none true, grant (some ⟨2⟩) false, grant (some ⟨1⟩) true, grant (some ⟨1⟩) false]

def collaborators : Collaborators := { Newsroom.collaborators with grantsFor := fun _ => grants }

end NoticeBoard

/-- The third grant lets the editor update, as a member and not as everyone. With the grants the
other way round the fourth does. -/
theorem update_explained :
    Operation.update ≠ .create ∧
    .grants Newsroom.article ∈ ((resolve Newsroom.bundles Newsroom.editor
      Newsroom.article .update).run
        (NoticeBoard.collaborators.respondent : Respondent String) []).2 ∧
    NoticeBoard.collaborators.grantsFor Newsroom.article ≠ [] ∧
    ∃ d, ((resolve Newsroom.bundles Newsroom.editor Newsroom.article .update).run
        (NoticeBoard.collaborators.respondent : Respondent String) []).1 = .ok d ∧
      d.outcome = .allowed ∧ d.reason = "update granted to group 1" ∧ d.reason ≠ "public grant" ∧
      ∃ d', ((resolve Newsroom.bundles Newsroom.editor Newsroom.article .update).run
          (({ NoticeBoard.collaborators with
              grantsFor := fun _ => NoticeBoard.grants.reverse } : Collaborators).respondent :
            Respondent String) []).1 = .ok d' ∧
        d'.outcome = .allowed := by
  have hasked : .grants Newsroom.article ∈ ((resolve Newsroom.bundles Newsroom.editor
      Newsroom.article .update).run
        (NoticeBoard.collaborators.respondent : Respondent String) []).2 := by decide
  refine ⟨by decide, hasked, by decide, ?_⟩
  obtain ⟨d, hd, -, -, -, hbare, -, hrearranged, -⟩ := granted_explained NoticeBoard.collaborators
    Newsroom.bundles Newsroom.editor Newsroom.article .update (by decide) hasked
    (by decide)
  have hallowed : d.outcome = .allowed := by
    cases hd
    rfl
  refine ⟨d, hd, hallowed, ?_, hbare, ?_⟩
  · cases hd
    rfl
  · obtain ⟨d', hd', hsame⟩ := hrearranged (fun _ => NoticeBoard.grants.reverse)
      fun _ => List.mem_reverse
    refine ⟨d', hd', ?_⟩
    rw [hsame]
    exact hallowed

end Resolver

end AccessControl
