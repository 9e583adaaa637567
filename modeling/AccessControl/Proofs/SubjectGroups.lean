import AccessControl.Proofs.DescribedEnvironment
import AccessControl.Proofs.StoredGrants

/-!
# The groups of a subject

A policy lists the members of each group. From that come two things: the groups of a subject, which
are reported with a decision, and the answers that the resolver gets when it asks about one group.
The first goes through all groups and looks at the subject once, before anything else; the second
looks at one group, and there it is the loop over the grants that knows about anonymous subjects. A
report that named a group which the grants do not honour, or left one out, would explain nothing.

They agree (`opens_iff_mem_groupsOf`): **a grant opens a change by way of a group exactly if the
group is reported**. And both are questions about who is listed where. How often a member is listed,
and in which order groups and members are, is lost when the lists are gone through
(`Membership.isMember_ofList`); in which order the groups are gone through is lost when what was
found is sorted (`Membership.groupsAlong_eq`).
-/

set_option autoImplicit false

namespace AccessControl

variable {p p' : Policy} {l : Policy.Listing} {s : Subject} {r : Resource} {op : Operation}
  {g : Grant} {group : GroupId} {subject : SubjectId}

/-! ## Going through a membership -/

namespace Membership

variable {m m' : Membership} {groups : List (GroupId × List SubjectId)}
  {bindings : List (GroupId × Std.ExtTreeSet SubjectId)}

theorem isMember_ofList :
    (ofList groups).isMember subject group = true ↔
      ∃ members, (group, members) ∈ groups ∧ subject ∈ members := by
  have hgrown : (ofList groups).isMember subject group = true ↔
      (∅ : Membership).isMember subject group = true ∨
        ∃ members, (group, members) ∈ groups ∧ subject ∈ members :=
    has_foldl_add (fun (m : Membership) group subject => m.isMember subject group = true)
      fun _ _ _ _ _ => isMember_add
  rw [hgrown]
  simp [isMember]

theorem mem_groupsOf : group ∈ m.groupsOf subject ↔ m.isMember subject group = true := by
  simp only [groupsOf, isMember, List.mem_map, List.mem_filter, Prod.exists,
    Std.ExtTreeMap.mem_toList_iff_getElem?_eq_some]
  constructor
  · rintro ⟨group, members, ⟨hmembers, hcontains⟩, rfl⟩
    simp only [hmembers, hcontains]
  · intro h
    cases hmembers : m[group]? with
    | none => simp [hmembers] at h
    | some members =>
      simp only [hmembers] at h
      exact ⟨group, members, ⟨hmembers, h⟩, rfl⟩

theorem ascending_groupsOf (m : Membership) (subject : SubjectId) :
    (m.groupsOf subject).Pairwise fun g h => g.number < h.number := by
  rw [groupsOf, List.pairwise_map]
  refine (Std.ExtTreeMap.ordered_keys_toList.filter _).imp ?_
  intro a b hab
  exact compareOfLessAndEq_eq_lt.mp hab

/-- Ascending lists of the same groups are the same list. -/
theorem eq_of_ascending {gs hs : List GroupId}
    (hgs : gs.Pairwise fun g h => g.number < h.number)
    (hhs : hs.Pairwise fun g h => g.number < h.number) (h : ∀ g, g ∈ gs ↔ g ∈ hs) : gs = hs := by
  have hirrefl : Std.Irrefl fun g h : GroupId => g.number < h.number :=
    ⟨fun g => UInt64.lt_irrefl g.number⟩
  have hantisymm : Std.Antisymm fun g h : GroupId => g.number < h.number :=
    ⟨fun g h hgh hhg => absurd hhg (UInt64.lt_asymm hgh)⟩
  exact hgs.eq_of_mem_iff hhs h

/-- The groups of a subject as they are found where a membership is gone through in some order:
those that have the subject, sorted afterwards. -/
def groupsAlong (bindings : List (GroupId × Std.ExtTreeSet SubjectId)) (subject : SubjectId) :
    List GroupId :=
  ((bindings.filter fun (_, members) => members.contains subject).map Prod.fst).mergeSort
    fun g h => g.number ≤ h.number

theorem groupsAlong_eq (h : bindings.Perm m.toList) :
    groupsAlong bindings subject = m.groupsOf subject := by
  have hsorted : (groupsAlong bindings subject).Pairwise fun g h => g.number ≤ h.number := by
    have htrans : ∀ a b c : GroupId, decide (a.number ≤ b.number) = true →
        decide (b.number ≤ c.number) = true → decide (a.number ≤ c.number) = true := by
      intro a b c hab hbc
      simp only [decide_eq_true_eq] at hab hbc ⊢
      exact UInt64.le_trans hab hbc
    have htotal : ∀ a b : GroupId,
        (decide (a.number ≤ b.number) || decide (b.number ≤ a.number)) = true := by
      intro a b
      simpa using UInt64.le_total a.number b.number
    simpa [groupsAlong] using List.pairwise_mergeSort htrans htotal _
  have hascending : (m.groupsOf subject).Pairwise fun g h => g.number ≤ h.number :=
    (ascending_groupsOf m subject).imp fun hlt => UInt64.le_of_lt hlt
  refine List.Perm.eq_of_pairwise ?_ hsorted hascending ?_
  · intro a b _ _ hab hba
    obtain ⟨a⟩ := a
    obtain ⟨b⟩ := b
    exact congrArg Identifier.mk (UInt64.le_antisymm hab hba)
  · exact (List.mergeSort_perm _ _).trans ((h.filter _).map _)

end Membership

/-! ## The groups that are reported -/

namespace Policy

/-- Lists of members say the same as a policy: who is listed for which group. -/
def SameMembers (p : Policy) (groups : List (GroupId × List SubjectId)) : Prop :=
  ∀ group subject, (∃ members, (group, members) ∈ groups ∧ subject ∈ members) ↔
    ∃ members, p.groups[group]? = some members ∧ subject ∈ members

theorem mem_groupsOf :
    group ∈ p.groupsOf s ↔
      s.isAnonymous = false ∧
        ∃ subject, s.id = some subject ∧ p.membership.isMember subject group = true := by
  unfold groupsOf
  cases s.id with
  | none => simp
  | some subject =>
    cases s.isAnonymous with
    | true => simp
    | false => simp [Membership.mem_groupsOf]

theorem ascending_groupsOf (p : Policy) (s : Subject) :
    (p.groupsOf s).Pairwise fun g h => g.number < h.number := by
  unfold groupsOf
  cases s.id with
  | none => exact .nil
  | some subject =>
    cases s.isAnonymous with
    | true => exact .nil
    | false => exact Membership.ascending_groupsOf p.membership subject

theorem mem_groupsOf_iff_listed :
    group ∈ p.groupsOf s ↔
      s.isAnonymous = false ∧ ∃ subject members, s.id = some subject ∧
        p.groups[group]? = some members ∧ subject ∈ members := by
  rw [mem_groupsOf]
  simp only [membership, isMember_membership (lists_listing p), exists_and_left]

theorem groupsOf_eq_of_sameMembers (h : p.SameMembers p'.groups.toList) :
    p'.groupsOf s = p.groupsOf s := by
  refine Membership.eq_of_ascending (ascending_groupsOf p' s) (ascending_groupsOf p s) ?_
  intro group
  rw [mem_groupsOf_iff_listed, mem_groupsOf_iff_listed]
  simp only [SameMembers, Std.ExtTreeMap.mem_toList_iff_getElem?_eq_some] at h
  simp only [exists_and_left, h]

/-- **However the groups are listed, and in whatever order the membership made from that is gone
through**, what is found for someone who is not anonymous are the groups of the policy. -/
theorem groupsAlong_eq_groupsOf {groups : List (GroupId × List SubjectId)}
    {bindings : List (GroupId × Std.ExtTreeSet SubjectId)} (hgroups : p.SameMembers groups)
    (hbindings : bindings.Perm (Membership.ofList groups).toList) (hid : s.id = some subject)
    (hknown : s.isAnonymous = false) :
    Membership.groupsAlong bindings subject = p.groupsOf s := by
  rw [Membership.groupsAlong_eq hbindings]
  refine Membership.eq_of_ascending (Membership.ascending_groupsOf _ subject)
    (ascending_groupsOf p s) ?_
  intro group
  rw [Membership.mem_groupsOf, Membership.isMember_ofList, hgroups, mem_groupsOf_iff_listed]
  simp [hid, hknown]

/-! ## The groups that are honoured -/

/-- A grant opens a change by way of a group exactly if the subject has the group. -/
theorem opens_iff_mem_groupsOf (hl : l.Lists p) (hop : op ≠ .view) :
    Opens l.membership.isMember s op g group ↔
      g.target = some group ∧ g.givesMembers op = true ∧ group ∈ p.groupsOf s := by
  have hsame : ∀ subject group, l.membership.isMember subject group = true ↔
      p.membership.isMember subject group = true := by
    intro subject group
    rw [isMember_membership hl, membership, isMember_membership (lists_listing p)]
  rw [mem_groupsOf]
  constructor
  · intro h
    cases h with
    | everyone _ hview _ => exact absurd hview hop
    | member htarget hgives hknown hid hmember =>
      exact ⟨htarget, hgives, hknown, _, hid, (hsame _ _).mp hmember⟩
  · rintro ⟨htarget, hgives, hknown, subject, hid, hmember⟩
    exact .member htarget hgives hknown hid ((hsame _ _).mpr hmember)

theorem outcome_checkGrants_iff_groupsOf (hl : l.Lists p) (hop : op = .update ∨ op = .delete) :
    ((Resolver.checkGrants s r op).eval (p.environmentAlong l).collaborators).outcome = .allowed ↔
      ∃ g ∈ p.store.grantsFor r, g.givesMembers op = true ∧
        ∃ group, g.target = some group ∧ group ∈ p.groupsOf s := by
  have hview : op ≠ .view := by rcases hop with rfl | rfl <;> simp
  have hcreate : op ≠ .create := by rcases hop with rfl | rfl <;> simp
  rw [Resolver.outcome_checkGrants_iff, and_iff_right hcreate]
  refine exists_congr fun g => and_congr_right fun _ => ?_
  show (∃ group, Opens l.membership.isMember s op g group) ↔ _
  simp only [opens_iff_mem_groupsOf hl hview, and_left_comm (b := g.givesMembers op = true),
    exists_and_left]

/-- **The groups that are reported are the groups that are honoured.** The groups of a subject are
ascending; they are those that list the subject, if it is not anonymous. They hang on nothing but
who is listed for which group: not on how often or in which order, and not on the order in which the
membership is gone through. And a change that comes to the grants of a resource is allowed if and
only if one of the grants gives it to the members of a group of the subject. -/
theorem groupsOf_exact {ε : Type} (p : Policy) (s : Subject) :
    (p.groupsOf s).Pairwise (fun g h => g.number < h.number) ∧
    (∀ group, group ∈ p.groupsOf s ↔
      s.isAnonymous = false ∧ ∃ subject members, s.id = some subject ∧
        p.groups[group]? = some members ∧ subject ∈ members) ∧
    (∀ p' : Policy, p.SameMembers p'.groups.toList → p'.groupsOf s = p.groupsOf s) ∧
    (∀ groups bindings subject, p.SameMembers groups →
      bindings.Perm (Membership.ofList groups).toList →
      s.id = some subject → s.isAnonymous = false →
        Membership.groupsAlong bindings subject = p.groupsOf s) ∧
    ∀ (l : Listing), l.Lists p → ∀ (r : Resource) (op : Operation), op = .update ∨ op = .delete →
      (((Resolver.checkGrants s r op).eval (p.environmentAlong l).collaborators).outcome = .allowed ↔
        ∃ g ∈ p.store.grantsFor r, g.givesMembers op = true ∧
          ∃ group, g.target = some group ∧ group ∈ p.groupsOf s) ∧
      (.grants r ∈ ((Resolver.resolve (p.environmentAlong l).bundles s r op).run
          ((p.environmentAlong l).collaborators.respondent : Respondent ε) []).2 →
        ∃ d, ((Resolver.resolve (p.environmentAlong l).bundles s r op).run
            ((p.environmentAlong l).collaborators.respondent : Respondent ε) []).1 = .ok d ∧
          (d.outcome = .allowed ↔
            ∃ g ∈ p.store.grantsFor r, g.givesMembers op = true ∧
              ∃ group, g.target = some group ∧ group ∈ p.groupsOf s)) := by
  refine ⟨ascending_groupsOf p s, ?_, ?_, ?_, ?_⟩
  · intro group
    exact mem_groupsOf_iff_listed
  · intro p' hsame
    exact groupsOf_eq_of_sameMembers hsame
  · intro groups bindings subject hgroups hbindings hid hknown
    exact groupsAlong_eq_groupsOf hgroups hbindings hid hknown
  · intro l hl r op hop
    refine ⟨outcome_checkGrants_iff_groupsOf hl hop, ?_⟩
    intro hasked
    obtain ⟨huses, hleft⟩ := Resolver.leftToGrants_of_asked hasked
    refine ⟨_, Consultation.run_respondent _ [] _, ?_⟩
    rw [hleft.eval_resolve, if_pos huses]
    exact outcome_checkGrants_iff_groupsOf hl hop

/-! ### A club

The first member is in two of three groups, and one of them may update the article. -/

namespace Club

def article : Entry where
  resource := .plain ⟨7⟩ "article"
  fields := (∅ : FieldMap).insert "field_access"
    [((∅ : FieldItem).insert Grant.targetKey (.int 3)).insert Grant.updateKey (.int 1)]

def policy : Policy where
  groups := (((∅ : Std.ExtTreeMap GroupId (List SubjectId)).insert ⟨3⟩ [⟨1⟩]).insert ⟨2⟩
    [⟨4⟩]).insert ⟨1⟩ [⟨2⟩, ⟨1⟩, ⟨2⟩]
  bundles := (∅ : BundleMap).insert "article" (.withGrantField "field_access")
  entries := [article]

/-- The same members, with one group listed twice. -/
def groups : List (GroupId × List SubjectId) :=
  [(⟨3⟩, [⟨1⟩, ⟨1⟩]), (⟨1⟩, [⟨1⟩]), (⟨2⟩, [⟨4⟩]), (⟨1⟩, [⟨2⟩])]

def member : Subject := .account ⟨1⟩ ∅

/-- The account of the member with no role but `anonymous`. -/
def masked : Subject := { id := some ⟨1⟩, roles := (∅ : RoleSet).insert .anonymous }

theorem sameMembers_groups : policy.SameMembers groups := by
  have hlist : policy.groups.toList =
      [(⟨1⟩, [⟨2⟩, ⟨1⟩, ⟨2⟩]), (⟨2⟩, [⟨4⟩]), (⟨3⟩, [⟨1⟩])] := by decide
  intro group subject
  simp only [← Std.ExtTreeMap.mem_toList_iff_getElem?_eq_some, hlist]
  simp only [groups, List.mem_cons, List.not_mem_nil, Prod.mk.injEq, or_false, or_and_right,
    exists_or, and_assoc, exists_and_left, exists_eq_left]
  tauto

end Club

/-- The member has the two groups, however they are listed, and may update; without a role of its
own the account has none and may not. -/
theorem club_groups :
    Club.policy.SameMembers Club.groups ∧
    Club.policy.groupsOf Club.member = [⟨1⟩, ⟨3⟩] ∧
    Membership.groupsAlong (Membership.ofList Club.groups).toList.reverse ⟨1⟩ = [⟨1⟩, ⟨3⟩] ∧
    .grants Club.article.resource ∈ ((Resolver.resolve Club.policy.environment.bundles Club.member
      Club.article.resource .update).run
        (Club.policy.environment.collaborators.respondent : Respondent String) []).2 ∧
    (∃ d, ((Resolver.resolve Club.policy.environment.bundles Club.member
      Club.article.resource .update).run
        (Club.policy.environment.collaborators.respondent : Respondent String) []).1 = .ok d ∧
      d.outcome = .allowed) ∧
    Club.policy.groupsOf Club.masked = [] ∧
    ((Resolver.checkGrants Club.masked Club.article.resource .update).eval
      Club.policy.environment.collaborators).outcome ≠ .allowed := by
  have hgroups : Club.policy.groupsOf Club.member = [⟨1⟩, ⟨3⟩] := by decide
  have hmasked : Club.policy.groupsOf Club.masked = [] := by decide
  have hasked : .grants Club.article.resource ∈ ((Resolver.resolve
      Club.policy.environment.bundles Club.member Club.article.resource .update).run
        (Club.policy.environment.collaborators.respondent : Respondent String) []).2 := by decide
  obtain ⟨-, -, -, halong, hhonoured⟩ := groupsOf_exact (ε := String) Club.policy Club.member
  obtain ⟨-, -, -, -, hrefused⟩ := groupsOf_exact (ε := String) Club.policy Club.masked
  refine ⟨Club.sameMembers_groups, hgroups, ?_, hasked, ?_, hmasked, ?_⟩
  · rw [halong Club.groups _ ⟨1⟩ Club.sameMembers_groups (List.reverse_perm _) rfl (by decide),
      hgroups]
  · obtain ⟨d, hd, hiff⟩ := (hhonoured Club.policy.listing (lists_listing _)
      Club.article.resource .update (Or.inl rfl)).2 hasked
    refine ⟨d, hd, hiff.mpr ?_⟩
    rw [hgroups]
    decide
  · intro hallowed
    obtain ⟨g, -, -, group, -, hmem⟩ := (hrefused Club.policy.listing (lists_listing _)
      Club.article.resource .update (Or.inl rfl)).1.mp hallowed
    rw [hmasked] at hmem
    cases hmem

end Policy

end AccessControl
