import AccessControl.Policy.Environment
import AccessControl.Proofs.CacheContexts
import AccessControl.Proofs.DecisionTable
import AccessControl.Proofs.StoreHistory
import Mathlib.Logic.Relation

/-!
# More rights

What someone may do they may still do with more rights: with more permissions to their roles, more
roles, more groups, more grants on the resource, or a second layer that is asked as well. The
procedure does not look like it. It takes a role away before one of its tests, it treats a subject
with one certain role and no other as a stranger, and a decision of its first layer can keep the
second from being asked at all.

Five things are enough for it not to matter (`NoWorse`): whatever was held is held, with all roles and
without `administrator`; whoever counted as a member counts as one; the grants are still there; **and
a resource without grants still has none**. The last is not about rights. A first grant makes the
grants speak, and what they refuse to view nobody opens.

From this the verdict follows ruling by ruling (`Chain.outcome_allowed_mono`); that each single gain
is one that leaves nobody worse is a fact about registry, membership, store and role set
(`Gain.noWorse`), and a run of gains is an induction over its steps
(`Standing.allows_of_gains`).
-/

set_option autoImplicit false

namespace AccessControl

/-! ## Nobody worse off -/

/-- A subject before collaborators and a subject before others, who is no worse off with a resource. -/
structure NoWorse (k k' : Collaborators) (s s' : Subject) (r : Resource) : Prop where
  holds : ∀ p, k.holds s.roles p = true → k'.holds s'.roles p = true
  holdsOrdinary : ∀ p, k.holds s.roles.withoutAdministrator p = true →
    k'.holds s'.roles.withoutAdministrator p = true
  places : ∀ group, k.places s group = true → k'.places s' group = true
  grants : ∀ g ∈ k.grantsFor r, g ∈ k'.grantsFor r
  noFirstGrant : k.grantsFor r = [] → k'.grantsFor r = []
  account : s'.id = s.id

theorem NoWorse.refl (k : Collaborators) (s : Subject) (r : Resource) : NoWorse k k s s r :=
  ⟨fun _ => id, fun _ => id, fun _ => id, fun _ => id, id, rfl⟩

variable {k k' : Collaborators} {rules : BundleRules} {s s' : Subject} {r : Resource}
  {op : Operation} {d d' : Decision}

theorem NoWorse.fits (h : NoWorse k k' s s' r) {g : Grant} (hfits : k.fits s op g = true) :
    k'.fits s' op g = true := by
  rw [Collaborators.fits_iff] at hfits ⊢
  obtain ⟨group, htarget, heveryone | ⟨hmembers, hplaced⟩⟩ := hfits
  · exact ⟨group, htarget, Or.inl heveryone⟩
  · exact ⟨group, htarget, Or.inr ⟨hmembers, h.places group hplaced⟩⟩

namespace Resolver

/-- **What the resolver allows it goes on allowing**, though not always for the same reason. -/
theorem Ruling.outcome_allowed_mono (hmono : NoWorse k k' s s' r) (h : Ruling k rules s r op d)
    (hallowed : d.outcome = .allowed) :
    ∃ d', Ruling k' rules s' r op d' ∧ d'.outcome = .allowed := by
  cases h with
  | admin hop hopen hadmin => exact ⟨_, .admin hop hopen (hmono.holds _ hadmin), rfl⟩
  | viewHeld hgated hall =>
    refine ⟨_, .viewHeld hgated (List.find?_eq_none.mpr fun p hp => ?_), rfl⟩
    have hheld := List.find?_eq_none.mp hall p hp
    simp only [Bool.not_eq_true', Bool.not_eq_false] at hheld ⊢
    exact hmono.holdsOrdinary p hheld
  | @granted _ g hleft huses hop hfits =>
    -- By now the admin permission may be held as well, and then it is the reason.
    by_cases hadmin : op ≠ .view ∧ k'.holds s'.roles (rules.adminPermissionFor r) = true
    · exact ⟨_, .admin hadmin.1 hleft.unlocked hadmin.2, rfl⟩
    · have hleft' : LeftToGrants k' rules s' r op :=
        ⟨hleft.unlocked, fun hview => by simpa using fun h => hadmin ⟨hview, h⟩, hleft.notGated⟩
      obtain ⟨g', hg'⟩ := Collaborators.exists_first_of_fits
        (hmono.grants g (List.mem_of_find?_eq_some hfits)) (hmono.fits (List.find?_some hfits))
      exact ⟨_, .granted hleft' huses hop hg', rfl⟩
  | locked _ | viewMissing _ _ | noGrants _ _ _ | notCovered _ _ _ | refused _ _ _ _ _
  | noRules _ _ => exact nomatch hallowed

/-- A request that was open to the second layer stays open to it, or is allowed without. -/
theorem Ruling.outcome_allowed_of_open (hmono : NoWorse k k' s s' r)
    (h : Ruling k rules s r op d) (h' : Ruling k' rules s' r op d')
    (hopen : Chain.isFinal d r op = false) (hfinal : Chain.isFinal d' r op = true) :
    d'.outcome = .allowed := by
  rw [← Bool.not_eq_true, Chain.isFinal_iff] at hopen
  by_cases hview : op = .view
  · subst hview
    cases h with
    | admin hop _ _ => exact absurd rfl hop
    | viewHeld _ _ => exact absurd (Or.inl rfl) hopen
    | viewMissing _ _ => exact absurd (Or.inr ⟨rfl, rfl⟩) hopen
    | granted _ _ _ _ => exact absurd (Or.inl rfl) hopen
    | refused _ _ _ _ _ => exact absurd (Or.inr ⟨rfl, rfl⟩) hopen
    | noGrants hleft _ hnone =>
      cases h' with
      | admin hop _ _ => exact absurd rfl hop
      | viewHeld hgated _ | viewMissing hgated _ => exact absurd (hleft.notGated rfl) hgated
      | granted _ _ _ _ => rfl
      | refused _ _ _ hsome _ => exact absurd (hmono.noFirstGrant hnone) hsome
      | noGrants _ _ _ | noRules _ _ => simp [Chain.isFinal_iff] at hfinal
    | noRules hleft huses =>
      cases h' with
      | admin hop _ _ => exact absurd rfl hop
      | viewHeld hgated _ | viewMissing hgated _ => exact absurd (hleft.notGated rfl) hgated
      | granted _ huses' _ _ | refused _ huses' _ _ _ | noGrants _ huses' _ =>
        simp [huses] at huses'
      | noRules _ _ => simp [Chain.isFinal_iff] at hfinal
  · have hunlocked : op = .delete → r.locked = false := by
      rintro rfl
      cases h with
      | locked hlocked =>
        exact absurd (Or.inr ⟨rfl, by simp [Chain.isOverridable, hlocked]⟩) hopen
      | admin _ hunlocked _ => exact hunlocked rfl
      | noGrants hleft _ _ | granted hleft _ _ _ | refused hleft _ _ _ _ | noRules hleft _ =>
        exact hleft.unlocked rfl
    exact (Chain.isFinal_iff_of_change hview hunlocked).mp hfinal

end Resolver

theorem StockPermissions.suffice_mono (hmono : NoWorse k k' s s' r)
    (h : suffice k s r op = true) : suffice k' s' r op = true := by
  simp only [suffice, Bool.or_eq_true, Option.any_eq_true, Bool.and_eq_true] at h ⊢
  rcases h with hany | ⟨own, hown, howns, hholds⟩
  · exact Or.inl (hmono.holds _ hany)
  · exact Or.inr ⟨own, hown, hmono.account ▸ howns, hmono.holds _ hholds⟩

/-- **What the chain allows it goes on allowing** to whoever is no worse off, with the second layer or
without, and also if that layer is asked only now. -/
theorem Chain.outcome_allowed_mono (hmono : NoWorse k k' s s' r) {bundles : BundleMap}
    {stock stock' : Bool} (hstock : stock = true → stock' = true)
    (hallowed : ((({ bundles, stock } : Chain).check s r op).eval k).outcome = .allowed) :
    ((({ bundles, stock := stock' } : Chain).check s' r op).eval k').outcome = .allowed := by
  have h := ruling_eval k { bundles, stock } s r op
  generalize (({ bundles, stock } : Chain).check s r op).eval k = final at h hallowed
  cases h with
  | alone hd _ =>
    obtain ⟨d', hd', hallowed'⟩ := hd.outcome_allowed_mono hmono hallowed
    rw [eval_of_final (c := { bundles, stock := stock' }) hd' (isFinal_iff.mpr (Or.inl hallowed'))]
    exact hallowed'
  | joined hd hasked hopen he =>
    have hsuffice : StockPermissions.suffice k s r op = true := by
      rw [outcome_join he] at hallowed
      split at hallowed
      · assumption
      · rw [← Bool.not_eq_true, isFinal_iff] at hopen
        exact absurd (Or.inl hallowed) hopen
    obtain ⟨d', hd'⟩ := Resolver.exists_ruling k' (bundles.rulesFor r.bundle) s' r op
    cases hfinal : isFinal d' r op with
    | true =>
      rw [eval_of_final hd' hfinal]
      exact hd.outcome_allowed_of_open hmono hd' hopen hfinal
    | false =>
      have he' := StockPermissions.ruling_eval k' s' r op
      rw [Ruling.eval_eq (.joined hd' (hstock hasked) hfinal he'), outcome_join he',
        if_pos (StockPermissions.suffice_mono hmono hsuffice)]

/-! ## Registry, membership and role set -/

/-- Registry and membership are maps to sets, and grow alike: one more element, under one key. -/
theorem mem_getD_alter_insert {α β : Type} [Ord α] [Std.TransOrd α] [Std.LawfulEqOrd α] [Ord β]
    [Std.TransOrd β] [Std.LawfulEqOrd β] {m : Std.ExtTreeMap α (Std.ExtTreeSet β)} {a a' : α}
    {b b' : β} :
    b' ∈ (m.alter a fun set => some ((set.getD ∅).insert b))[a']?.getD ∅ ↔
      b' ∈ m[a']?.getD ∅ ∨ a = a' ∧ b = b' := by
  rw [Std.ExtTreeMap.getElem?_alter]
  by_cases hkey : a = a'
  · subst hkey
    rw [if_pos Std.ReflCmp.compare_self]
    simp [or_comm]
  · rw [if_neg fun h => hkey (Std.LawfulEqOrd.eq_of_compare h)]
    simp [hkey]

theorem Registry.gives_iff {registry : Registry} {role : RoleId} {p : String} :
    registry.gives role p = true ↔ p ∈ registry[role]?.getD ∅ := by
  unfold gives
  cases registry[role]? <;> simp

theorem Registry.gives_grant {registry : Registry} {role other : RoleId} {p q : String} :
    (registry.grant role p).gives other q = true ↔
      registry.gives other q = true ∨ role = other ∧ p = q := by
  rw [gives_iff, gives_iff, grant, mem_getD_alter_insert]

theorem Registry.holds_iff {registry : Registry} {roles : RoleSet} {p : String} :
    registry.holds roles p = true ↔ ∃ role ∈ roles, registry.gives role p = true := by
  simp [holds]

theorem Membership.isMember_iff {m : Membership} {group : GroupId} {subject : SubjectId} :
    m.isMember subject group = true ↔ subject ∈ m[group]?.getD ∅ := by
  unfold isMember
  cases m[group]? <;> simp

theorem Membership.isMember_add {m : Membership} {group other : GroupId}
    {subject s : SubjectId} :
    (m.add group subject).isMember s other = true ↔
      m.isMember s other = true ∨ group = other ∧ subject = s := by
  rw [isMember_iff, isMember_iff, add, mem_getD_alter_insert]

theorem RoleSet.mem_withoutAdministrator {roles : RoleSet} {role : RoleId} :
    role ∈ roles.withoutAdministrator ↔ role ∈ roles ∧ role ≠ .administrator := by
  rw [withoutAdministrator, Std.ExtTreeSet.mem_erase]
  constructor
  · rintro ⟨hne, hmem⟩
    exact ⟨hmem, fun h => hne (h ▸ Std.ReflCmp.compare_self)⟩
  · rintro ⟨hmem, hne⟩
    exact ⟨fun h => hne (Std.LawfulEqOrd.eq_of_compare h).symm, hmem⟩

/-- **Who is not a stranger**: someone with an account and some role other than `anonymous`. -/
theorem Subject.isAnonymous_eq_false_iff {s : Subject} :
    s.isAnonymous = false ↔ s.id.isSome = true ∧ ∃ role ∈ s.roles, role ≠ .anonymous := by
  have hordered := s.roles.ordered_toList
  simp only [isAnonymous, ← Std.ExtTreeSet.isEmpty_toList, ← Std.ExtTreeSet.length_toList,
    ← Std.ExtTreeSet.contains_toList, ← Std.ExtTreeSet.mem_toList]
  -- The set has no role, one, or two that differ.
  generalize s.roles.toList = roles at hordered ⊢
  cases roles with
  | nil => simp
  | cons role rest =>
    cases rest with
    | nil => simp [eq_comm (a := RoleId.anonymous)]
    | cons other rest =>
      have hne : role ≠ other := by
        rintro rfl
        simp at hordered
      have hsome : role ≠ .anonymous ∨ other ≠ .anonymous := by
        by_cases hrole : role = .anonymous
        · exact Or.inr fun hother => hne (hrole.trans hother.symm)
        · exact Or.inl hrole
      rcases hsome with hrole | hother
      · simp [hrole]
      · simp [hother]

theorem Registry.holds_mono {registry : Registry} {roles roles' : RoleSet} {p : String}
    (hroles : ∀ role ∈ roles, role ∈ roles') (h : registry.holds roles p = true) :
    registry.holds roles' p = true := by
  rw [holds_iff] at h ⊢
  obtain ⟨role, hmem, hgives⟩ := h
  exact ⟨role, hroles role hmem, hgives⟩

/-- A permission that a role is given is held by whoever has the role, and nothing else changes. -/
theorem Registry.holds_grant_iff {registry : Registry} {roles : RoleSet} {role : RoleId}
    {p q : String} :
    (registry.grant role p).holds roles q = true ↔
      registry.holds roles q = true ∨ role ∈ roles ∧ p = q := by
  rw [holds_iff, holds_iff]
  constructor
  · rintro ⟨other, hmem, hgives⟩
    rcases gives_grant.mp hgives with hbefore | ⟨rfl, hp⟩
    · exact Or.inl ⟨other, hmem, hbefore⟩
    · exact Or.inr ⟨hmem, hp⟩
  · rintro (⟨other, hmem, hbefore⟩ | ⟨hmem, hp⟩)
    · exact ⟨other, hmem, gives_grant.mpr (Or.inl hbefore)⟩
    · exact ⟨role, hmem, gives_grant.mpr (Or.inr ⟨rfl, hp⟩)⟩

theorem Registry.holds_grant {registry : Registry} {roles : RoleSet} {role : RoleId} {p q : String}
    (h : registry.holds roles q = true) : (registry.grant role p).holds roles q = true :=
  holds_grant_iff.mpr (Or.inl h)

/-- Who holds a permission does not depend on who is given another one. -/
theorem Registry.holds_grant_of_ne {registry : Registry} {role : RoleId} {p q : String}
    (hne : p ≠ q) (roles : RoleSet) :
    (registry.grant role p).holds roles q = registry.holds roles q := by
  rw [Bool.eq_iff_iff, holds_grant_iff]
  simp only [hne, and_false, or_false]

/-! ## Gains -/

/-- An environment, someone who asks in it, and whether stock permissions are asked as well. -/
structure Standing where
  environment : Policy.Environment
  subject : Subject
  stock : Bool

/-- Whether the chain comes to a decision that gives access. -/
def Standing.Allows (t : Standing) (r : Resource) (op : Operation) : Prop :=
  ∃ d : Decision,
    (((t.environment.chain t.stock).check t.subject r op).run
      (t.environment.collaborators.respondent : Respondent Empty) []).1 = .ok d ∧
    d.outcome = .allowed

/-- One gain in rights. -/
inductive Gain : Standing → Standing → Prop
  /-- A role gives one more permission. -/
  | permission (t : Standing) (role : RoleId) (p : String) :
      Gain t { t with environment.registry := t.environment.registry.grant role p }
  /-- A group has one more member. -/
  | member (t : Standing) (group : GroupId) (subject : SubjectId) :
      Gain t { t with environment.membership := t.environment.membership.add group subject }
  /-- The subject has one more role, whichever it is. -/
  | role (t : Standing) (role : RoleId) :
      Gain t { t with subject.roles := t.subject.roles.insert role }
  /-- A field of a resource has more items, anywhere among those that it has. The resource has an item
  already, in this field or in another. -/
  | items (t : Standing) (r : Resource) (field : String) (before more after : List FieldItem)
      (hstored : ∃ other, t.environment.store.itemsOf r.key other ≠ [])
      (hfield : t.environment.store.itemsOf r.key field = before ++ after) :
      Gain t { t with
        environment.store := t.environment.store.save r field (before ++ more ++ after) }
  /-- Stock permissions are asked from now on. -/
  | stock (t : Standing) : Gain t { t with stock := true }

theorem Standing.allows_iff {t : Standing} :
    t.Allows r op ↔
      ((({ bundles := t.environment.bundles, stock := t.stock } : Chain).check t.subject r op).eval
        t.environment.collaborators).outcome = .allowed := by
  unfold Allows
  rw [Consultation.run_respondent]
  constructor
  · rintro ⟨d, hd, hallowed⟩
    cases hd
    exact hallowed
  · intro hallowed
    exact ⟨_, rfl, hallowed⟩

/-- More items in a field of a resource that has some are more grants for this resource, and no first
grant for any. -/
theorem Store.grantsFor_save_mono {store : Store} {r : Resource} {field : String}
    {before after : List FieldItem} (hstored : ∃ other, store.itemsOf r.key other ≠ [])
    (hfield : store.itemsOf r.key field = before ++ after) (more : List FieldItem)
    (asked : Resource) :
    (∀ g ∈ store.grantsFor asked,
      g ∈ (store.save r field (before ++ more ++ after)).grantsFor asked) ∧
    (store.grantsFor asked = [] →
      (store.save r field (before ++ more ++ after)).grantsFor asked = []) := by
  constructor
  · intro g hg
    obtain ⟨other, item, hitem, rfl⟩ := mem_grantsFor.mp hg
    refine mem_grantsFor.mpr ⟨other, item, ?_, rfl⟩
    rw [itemsOf_save]
    split
    · rename_i hsame
      rw [← hsame.1, ← hsame.2, hfield, List.mem_append] at hitem
      rw [List.mem_append, List.mem_append]
      rcases hitem with hitem | hitem
      · exact Or.inl (Or.inl hitem)
      · exact Or.inr hitem
    · exact hitem
  · intro hnone
    by_cases hkey : r.key = asked.key
    · obtain ⟨other, hother⟩ := hstored
      obtain ⟨item, hitem⟩ := List.exists_mem_of_ne_nil _ hother
      have hg := mem_grantsFor.mpr ⟨other, item, hkey ▸ hitem, rfl⟩
      rw [hnone] at hg
      exact absurd hg (List.not_mem_nil)
    · rw [← hnone]
      refine grantsFor_congr fun other => ?_
      rw [itemsOf_save, if_neg fun h => hkey h.1]

/-- **A gain leaves nobody worse off**, whatever resource is asked about. -/
theorem Gain.noWorse {t t' : Standing} (h : Gain t t') (r : Resource) :
    NoWorse t.environment.collaborators t'.environment.collaborators t.subject t'.subject r := by
  cases h with
  | permission role p =>
    exact { NoWorse.refl _ _ r with
      holds := fun _ => Registry.holds_grant
      holdsOrdinary := fun _ => Registry.holds_grant }
  | member group subject =>
    refine { NoWorse.refl _ _ r with places := ?_ }
    intro other hplaces
    rw [Collaborators.places_iff] at hplaces ⊢
    obtain ⟨hknown, id, hid, hmember⟩ := hplaces
    exact ⟨hknown, id, hid, Membership.isMember_add.mpr (Or.inl hmember)⟩
  | role role =>
    have hroles : ∀ other ∈ t.subject.roles, other ∈ t.subject.roles.insert role :=
      fun other hmem => Std.ExtTreeSet.mem_insert.mpr (Or.inr hmem)
    refine { NoWorse.refl _ _ r with holds := ?_, holdsOrdinary := ?_, places := ?_ }
    · intro p
      exact Registry.holds_mono hroles
    · intro p
      refine Registry.holds_mono fun other hmem => ?_
      rw [RoleSet.mem_withoutAdministrator] at hmem ⊢
      exact ⟨hroles other hmem.1, hmem.2⟩
    · intro group hplaces
      rw [Collaborators.places_iff, Subject.isAnonymous_eq_false_iff] at hplaces ⊢
      obtain ⟨⟨hid, other, hmem, hother⟩, hmember⟩ := hplaces
      exact ⟨⟨hid, other, hroles other hmem, hother⟩, hmember⟩
  | items changed field before more after hstored hfield =>
    obtain ⟨hgrants, hnone⟩ := Store.grantsFor_save_mono hstored hfield more r
    exact { NoWorse.refl _ _ r with grants := hgrants, noFirstGrant := hnone }
  | stock => exact NoWorse.refl _ _ r

theorem Gain.allows {t t' : Standing} (h : Gain t t') (hallows : t.Allows r op) :
    t'.Allows r op := by
  have hbundles : t'.environment.bundles = t.environment.bundles := by
    cases h <;> rfl
  have hstock : t.stock = true → t'.stock = true := by
    cases h with
    | permission _ _ | member _ _ | role _ | items _ _ _ _ _ _ _ => exact id
    | stock => exact fun _ => rfl
  rw [Standing.allows_iff] at hallows ⊢
  rw [hbundles]
  exact Chain.outcome_allowed_mono (h.noWorse r) hstock hallows

/-- **Access is monotone in rights.** What the chain allows it allows after any number of gains, in any
order. -/
theorem Standing.allows_of_gains {t t' : Standing} (hgains : Relation.ReflTransGen Gain t t')
    (r : Resource) (op : Operation) (hallows : t.Allows r op) : t'.Allows r op := by
  induction hgains with
  | refl => exact hallows
  | tail _ hgain ih => exact hgain.allows ih

/-! ### In the newsroom

The editor may update the article as a member of the group that it names. -/

namespace Newsroom

def updateItem : FieldItem := (∅ : FieldItem).insert "target_id" (.int 1) |>.insert "grant_update" (.int 1)

def standing : Standing where
  environment :=
    { registry := ∅
      membership := (∅ : Membership).add ⟨1⟩ ⟨1⟩
      store := (∅ : Store).save article "field_access" [updateItem]
      bundles := bundles
      resources := [article] }
  subject := editor
  stock := false

/-- The standing after the editor has become `anonymous` as well, an item without a group has been put
before the other one, and stock permissions are asked. -/
def laterStanding : Standing where
  environment :=
    { standing.environment with
      store := standing.environment.store.save article "field_access"
        ([] ++ [(∅ : FieldItem).insert "grant_update" (.bool true)] ++ [updateItem]) }
  subject := { editor with roles := editor.roles.insert .anonymous }
  stock := true

end Newsroom

theorem Standing.editor_allowed_later :
    Relation.ReflTransGen Gain Newsroom.standing Newsroom.laterStanding ∧
    Newsroom.standing.Allows Newsroom.article .update ∧
    Newsroom.laterStanding.Allows Newsroom.article .update := by
  have hgains : Relation.ReflTransGen Gain Newsroom.standing Newsroom.laterStanding := by
    refine .tail (.tail (.tail .refl (.role _ .anonymous)) (.items _ Newsroom.article "field_access" []
      [(∅ : FieldItem).insert "grant_update" (.bool true)] [Newsroom.updateItem] ?_ ?_)) (.stock _)
    · exact ⟨"field_access", by decide⟩
    · decide
  have hallows : Newsroom.standing.Allows Newsroom.article .update := by
    rw [Standing.allows_iff]
    decide
  exact ⟨hgains, hallows, Standing.allows_of_gains hgains _ _ hallows⟩

end AccessControl
