import AccessControl.Proofs.GrantReasons

/-!
# Grants that go through the store

A grant is stored as an item and read back from it. Groups are numbered by 64 bits without a sign
and items hold 64 bits with one, so of a group in the upper half of the numbers there is no item,
and the grant is stored without it. What comes back is the grant itself or the grant **without its
group** (`Grant.ofItem_toItem`), never one for another group, and it comes back unchanged from then
on (`Grant.toItem_ofItem_toItem`).

A grant without its group opens nothing to anybody: if it has flags it is malformed, also if one of
them is the flag for everyone. So what is lost in the store can be missed but not misused. A subject
that the stored grants let through is let through by a grant that kept its group, and that grant was
there before (`Store.saveGrants_failsClosed`).
-/

set_option autoImplicit false

namespace AccessControl

/-! ## Values -/

theorem FieldValue.asFlag_storedFlag (b : Bool) : (Grant.storedFlag b).asFlag = b := by
  cases b <;> rfl

theorem FieldValue.asId_int_iff {i : Int64} {n : UInt64} :
    (FieldValue.int i).asId = some n ↔ i.toInt = n.toNat := by
  have hlimit : i.toInt < 2 ^ 63 := i.toInt_lt
  rw [asId]
  split
  · rename_i hneg
    rw [Int64.lt_iff_toInt_lt, Int64.toInt_zero] at hneg
    refine iff_of_false (by simp) ?_
    omega
  · rename_i hpos
    rw [Int64.lt_iff_toInt_lt, Int64.toInt_zero] at hpos
    have hsmall : i.toInt.toNat < 2 ^ 64 := by omega
    rw [Option.some.injEq, ← UInt64.toNat_inj, UInt64.toNat_ofNat_of_lt' hsmall]
    omega

/-- A number below two to the power 63 is stored as it is. -/
theorem FieldValue.asId_int {n : UInt64} (h : n.toNat < Text.signedLimit) :
    (FieldValue.int (Int64.ofNat n.toNat)).asId = some n :=
  asId_int_iff.mpr (Int64.toInt_ofNat_of_lt h)

namespace Grant

/-! ## One grant -/

/-- What is left of a grant in the store: it loses a group whose number is too large. -/
def stored (g : Grant) : Grant :=
  { g with target := g.target.filter fun group => group.number.toNat < Text.signedLimit }

theorem stored_eq_self {g : Grant}
    (h : ∀ group, g.target = some group → group.number.toNat < Text.signedLimit) :
    g.stored = g := by
  have htarget :
      (g.target.filter fun group => group.number.toNat < Text.signedLimit) = g.target := by
    cases hg : g.target with
    | none => rfl
    | some group => simp [h group hg]
  rw [stored, htarget]

theorem stored_eq_of_too_large {g : Grant} {group : GroupId} (htarget : g.target = some group)
    (h : Text.signedLimit ≤ group.number.toNat) : g.stored = { g with target := none } := by
  simp [stored, htarget, h]

theorem storedTarget?_eq (g : Grant) :
    g.target.bind storedTarget? =
      g.stored.target.map fun group => FieldValue.int (Int64.ofNat group.number.toNat) := by
  cases hg : g.target with
  | none => simp [stored, hg]
  | some group =>
    rw [stored, hg, Option.bind_some, storedTarget?, Option.filter_some]
    by_cases h : group.number.toNat < Text.signedLimit
    · rw [if_pos h, if_pos (decide_eq_true h)]
      rfl
    · rw [if_neg h, if_neg (by simpa using h)]
      rfl

/-- The item is that of what is left of the grant. -/
theorem toItem_stored (g : Grant) : g.stored.toItem = g.toItem := by
  have hsame : g.stored.stored = g.stored :=
    stored_eq_self fun group h => by simpa using (Option.filter_eq_some_iff.mp h).2
  unfold toItem
  rw [storedTarget?_eq, storedTarget?_eq, hsame]
  rfl

/-- The flags of an item, whatever its group. -/
theorem flag_toItem (g : Grant) :
    g.toItem.flag publicKey = g.isPublic ∧ g.toItem.flag viewKey = g.view ∧
      g.toItem.flag updateKey = g.update ∧ g.toItem.flag deleteKey = g.delete := by
  unfold toItem
  cases g.target.bind storedTarget? with
  | none =>
    simp [FieldItem.flag, Std.ExtTreeMap.getElem_insert, publicKey, viewKey, updateKey, deleteKey,
      FieldValue.asFlag_storedFlag]
  | some v =>
    simp [FieldItem.flag, Std.ExtTreeMap.getElem_insert, publicKey, viewKey, updateKey, deleteKey,
      targetKey, FieldValue.asFlag_storedFlag]

theorem target_toItem (g : Grant) : g.toItem[targetKey]? = g.target.bind storedTarget? := by
  unfold toItem
  cases g.target.bind storedTarget? with
  | none =>
    simp [publicKey, viewKey, updateKey, deleteKey, targetKey]
  | some v => simp

theorem ofItem_toItem (g : Grant) : ofItem g.toItem = g.stored := by
  obtain ⟨hpublic, hview, hupdate, hdelete⟩ := g.flag_toItem
  have htarget :
      (g.toItem[targetKey]?.bind FieldValue.asId).map Identifier.mk = g.stored.target := by
    rw [target_toItem, storedTarget?_eq]
    cases hg : g.stored.target with
    | none => rfl
    | some group =>
      have hsmall : group.number.toNat < Text.signedLimit := by
        simpa using (Option.filter_eq_some_iff.mp hg).2
      rw [Option.map_some, Option.bind_some, FieldValue.asId_int hsmall]
      rfl
  rw [ofItem, htarget, hpublic, hview, hupdate, hdelete]
  rfl

theorem toItem_ofItem_toItem (g : Grant) : (ofItem g.toItem).toItem = g.toItem := by
  rw [ofItem_toItem, toItem_stored]

end Grant

variable {isMember : SubjectId → GroupId → Bool} {k : Collaborators} {s : Subject} {r : Resource}
  {op : Operation} {g : Grant} {group : GroupId}

/-- What is left of a grant opens what the grant did, if it has kept its group. -/
theorem opens_stored :
    Opens isMember s op g.stored group ↔
      group.number.toNat < Text.signedLimit ∧ Opens isMember s op g group := by
  constructor
  · intro h
    -- The target tells that the group was kept, and flags and members are what they were.
    obtain ⟨htarget, hsmall⟩ := Option.filter_eq_some_iff.mp h.target
    refine ⟨by simpa using hsmall, ?_⟩
    cases h with
    | everyone _ hview hpublic => exact .everyone htarget hview hpublic
    | member _ hgives hknown hid hmember => exact .member htarget hgives hknown hid hmember
  · rintro ⟨hsmall, h⟩
    have htarget : g.stored.target = some group :=
      Option.filter_eq_some_iff.mpr ⟨h.target, decide_eq_true hsmall⟩
    cases h with
    | everyone _ hview hpublic => exact .everyone htarget hview hpublic
    | member _ hgives hknown hid hmember => exact .member htarget hgives hknown hid hmember

/-! ## The grants of a resource -/

theorem Store.grantsFor_saveGrants {store : Store} {field : String} (grants : List Grant)
    (honly : ∀ other, other ≠ field → store.itemsOf r.key other = []) :
    (store.saveGrants r field grants).grantsFor r = grants.map Grant.stored := by
  have hitems : ∀ other, (store.saveGrants r field grants).itemsOf r.key other =
      if field = other then grants.map Grant.toItem else store.itemsOf r.key other := by
    intro other
    rw [saveGrants, itemsOf_save]
    simp only [true_and]
  have hcover : ∀ other, (store.saveGrants r field grants).itemsOf r.key other ≠ [] →
      other ∈ [field] := by
    intro other hsome
    rw [hitems] at hsome
    by_cases hfield : field = other
    · exact List.mem_singleton.mpr hfield.symm
    · rw [if_neg hfield, honly other (Ne.symm hfield)] at hsome
      exact absurd rfl hsome
  rw [grantsFor_eq_flatMap (List.pairwise_singleton _ field) hcover, List.flatMap_singleton, hitems,
    if_pos rfl, List.map_map]
  exact List.map_congr_left fun g _ => g.ofItem_toItem

namespace Resolver

/-- The grants allow an operation if one of them opens it; none opens a creation. -/
theorem outcome_checkGrants_iff :
    ((checkGrants s r op).eval k).outcome = .allowed ↔
      op ≠ .create ∧ ∃ g ∈ k.grantsFor r, ∃ group, Opens k.isMember s op g group := by
  rw [eval_checkGrants]
  split
  · rename_i hnone
    simp [List.isEmpty_iff.mp hnone]
  · split
    · rename_i hcreate
      simp [beq_iff_eq.mp hcreate]
    · rename_i hop
      rw [eval_evaluate]
      cases hfound : (k.grantsFor r).find? (k.fits s op) with
      | some g =>
        refine iff_of_true rfl ⟨by simpa using hop, g, List.mem_of_find?_eq_some hfound, ?_⟩
        exact fits_iff_opens.mp (List.find?_some hfound)
      | none =>
        refine iff_of_false (by simp [byGrants]) ?_
        rintro ⟨-, g, hg, hopens⟩
        exact List.find?_eq_none.mp hfound g hg (fits_iff_opens.mpr hopens)

theorem appliesToMember_asksOnly_target :
    (appliesToMember s g op).AsksOnly fun q =>
      ∃ subject group, q = .member subject group ∧ g.target = some group := by
  unfold appliesToMember
  split
  · trivial
  · split
    · rename_i subject group _ htarget
      exact ⟨⟨subject, group, rfl, htarget⟩, fun _ => trivial⟩
    · trivial

theorem evaluate_asksOnly_targets (grants : List Grant) :
    (evaluate s r op grants).AsksOnly fun q =>
      ∃ subject group, q = .member subject group ∧ ∃ g ∈ grants, g.target = some group := by
  refine evaluate_asksOnly_of fun g hg => appliesToMember_asksOnly_target.mono ?_
  rintro q ⟨subject, group, hq, htarget⟩
  exact ⟨subject, group, hq, g, hg, htarget⟩

/-- The membership is asked about groups that grants of the resource name. -/
theorem target_of_asked {ε : Type} {subject : SubjectId}
    (h : .member subject group ∈ ((checkGrants s r op).run (k.respondent : Respondent ε) []).2) :
    ∃ g ∈ k.grantsFor r, g.target = some group := by
  rw [Consultation.run_snd, List.nil_append, checkGrants, Consultation.asked_bind,
    Consultation.run_respondent, List.mem_append] at h
  rcases h with hgrants | hrest
  · cases List.mem_singleton.mp hgrants
  · show ∃ g ∈ k.grantsFor r, g.target = some group
    simp only at hrest
    split at hrest
    · exact absurd hrest List.not_mem_nil
    · split at hrest
      · exact absurd hrest List.not_mem_nil
      · obtain ⟨_, _, hquestion, hnamed⟩ :=
          (evaluate_asksOnly_targets (k.grantsFor r)).of_mem_asked hrest
        cases hquestion
        exact hnamed

/-- **Grants that open less allow less**, whatever the rules of the bundle. -/
theorem outcome_resolve_mono {bundles : BundleMap} {grantsFor : Resource → List Grant}
    (hopens : ∀ g ∈ k.grantsFor r, ∀ group, Opens k.isMember s op g group →
      ∃ g' ∈ grantsFor r, ∃ group', Opens k.isMember s op g' group')
    (hallowed : ((resolve bundles s r op).eval k).outcome = .allowed) :
    ((resolve bundles s r op).eval { k with grantsFor }).outcome = .allowed := by
  have hruling := ruling_eval k bundles s r op
  generalize (resolve bundles s r op).eval k = d at hruling hallowed
  have hother : ∃ d', Ruling { k with grantsFor } (bundles.rulesFor r.bundle) s r op d' ∧
      d'.outcome = .allowed := by
    -- Admin permission and gate do not look at the grants, so only one ruling needs another one.
    cases hruling with
    | admin hop hopen hadmin => exact ⟨_, .admin hop hopen hadmin, rfl⟩
    | viewHeld hgated hall => exact ⟨_, .viewHeld hgated hall, rfl⟩
    | granted hleft huses hop hfits =>
      obtain ⟨group, hgroup⟩ := fits_iff_opens.mp (List.find?_some hfits)
      obtain ⟨g', hg', hopened⟩ := hopens _ (List.mem_of_find?_eq_some hfits) group hgroup
      have hfits' : ({ k with grantsFor } : Collaborators).fits s op g' = true :=
        fits_iff_opens.mpr hopened
      obtain ⟨first, hfirst⟩ := Collaborators.exists_first_of_fits hg' hfits'
      exact ⟨_, .granted hleft.withGrants huses hop hfirst, rfl⟩
    | locked _ | viewMissing _ _ | noGrants _ _ _ | notCovered _ _ _ | refused _ _ _ _ _
    | noRules _ _ => cases hallowed
  obtain ⟨d', hd', hallowed'⟩ := hother
  rw [hd'.eval_eq]
  exact hallowed'

/-! ## What stored grants allow -/

section

variable {grants : List Grant} (hstored : k.grantsFor r = grants.map Grant.stored)
include hstored

theorem exists_of_mem_stored (hg : g ∈ k.grantsFor r) : ∃ whole ∈ grants, whole.stored = g := by
  rw [hstored] at hg
  exact List.mem_map.mp hg

theorem outcome_checkGrants_stored_iff :
    ((checkGrants s r op).eval k).outcome = .allowed ↔
      op ≠ .create ∧ ∃ g ∈ grants, ∃ group, group.number.toNat < Text.signedLimit ∧
        Opens k.isMember s op g group := by
  rw [outcome_checkGrants_iff, hstored]
  simp only [List.mem_map, exists_exists_and_eq_and, opens_stored]

theorem outcome_checkGrants_of_stored
    (hallowed : ((checkGrants s r op).eval k).outcome = .allowed) :
    ((checkGrants s r op).eval { k with grantsFor := fun _ => grants }).outcome = .allowed := by
  obtain ⟨hop, g, hg, group, -, hopens⟩ := (outcome_checkGrants_stored_iff hstored).mp hallowed
  exact outcome_checkGrants_iff.mpr ⟨hop, g, hg, group, hopens⟩

theorem outcome_resolve_of_stored {bundles : BundleMap}
    (hallowed : ((resolve bundles s r op).eval k).outcome = .allowed) :
    ((resolve bundles s r op).eval { k with grantsFor := fun _ => grants }).outcome = .allowed := by
  refine outcome_resolve_mono (fun g hg group hopens => ?_) hallowed
  obtain ⟨whole, hwhole, rfl⟩ := exists_of_mem_stored hstored hg
  exact ⟨whole, hwhole, group, (opens_stored.mp hopens).2⟩

theorem storable_of_asked {ε : Type} {subject : SubjectId}
    (h : .member subject group ∈ ((checkGrants s r op).run (k.respondent : Respondent ε) []).2) :
    ∃ g ∈ grants, g.target = some group ∧ group.number.toNat < Text.signedLimit := by
  obtain ⟨g, hg, htarget⟩ := target_of_asked h
  obtain ⟨whole, hwhole, rfl⟩ := exists_of_mem_stored hstored hg
  obtain ⟨htarget, hsmall⟩ := Option.filter_eq_some_iff.mp htarget
  exact ⟨whole, hwhole, htarget, by simpa using hsmall⟩

end

end Resolver

/-- **Storing grants fails closed.** Through an item a grant comes back as it was, or without its
group if the number of that is two to the power 63 or more, and either way the item of what came
back is the same. Saved as the only items of a resource the grants come back so, one for one and in
order. Before collaborators who have them from the store, and whoever is asking,

* they allow an operation exactly if one of the grants that have kept their group opens it;
* they allow nothing that the grants themselves would not, by themselves or along with the rules of
  any bundles;
* no membership is asked for but in a group that one of the grants named and that could be stored. -/
theorem Store.saveGrants_failsClosed {ε : Type} :
    (∀ g : Grant,
      ((∀ group, g.target = some group → group.number.toNat < Text.signedLimit) →
        Grant.ofItem g.toItem = g) ∧
      (∀ group, g.target = some group → Text.signedLimit ≤ group.number.toNat →
        Grant.ofItem g.toItem = { g with target := none }) ∧
      (Grant.ofItem g.toItem).toItem = g.toItem) ∧
    ∀ (store : Store) (r : Resource) (field : String) (grants : List Grant),
      (∀ other, other ≠ field → store.itemsOf r.key other = []) →
      (store.saveGrants r field grants).grantsFor r =
        grants.map (fun g =>
          { g with target := g.target.filter fun group => group.number.toNat < Text.signedLimit }) ∧
      ∀ k : Collaborators, k.grantsFor r = (store.saveGrants r field grants).grantsFor r →
        ∀ (s : Subject) (op : Operation),
          (((Resolver.checkGrants s r op).eval k).outcome = .allowed ↔
            op ≠ .create ∧ ∃ g ∈ grants, ∃ group, group.number.toNat < Text.signedLimit ∧
              Opens k.isMember s op g group) ∧
          (((Resolver.checkGrants s r op).eval k).outcome = .allowed →
            ((Resolver.checkGrants s r op).eval
              { k with grantsFor := fun _ => grants }).outcome = .allowed) ∧
          (∀ bundles, ((Resolver.resolve bundles s r op).eval k).outcome = .allowed →
            ((Resolver.resolve bundles s r op).eval
              { k with grantsFor := fun _ => grants }).outcome = .allowed) ∧
          ∀ subject group, .member subject group ∈
              ((Resolver.checkGrants s r op).run (k.respondent : Respondent ε) []).2 →
            ∃ g ∈ grants, g.target = some group ∧ group.number.toNat < Text.signedLimit := by
  constructor
  · intro g
    refine ⟨?_, ?_, g.toItem_ofItem_toItem⟩
    · intro hsmall
      rw [g.ofItem_toItem, Grant.stored_eq_self hsmall]
    · intro group htarget hlarge
      rw [g.ofItem_toItem, Grant.stored_eq_of_too_large htarget hlarge]
  · intro store r field grants honly
    have hback := Store.grantsFor_saveGrants grants honly
    refine ⟨hback, ?_⟩
    intro k hk s op
    have hstored : k.grantsFor r = grants.map Grant.stored := hk.trans hback
    exact ⟨Resolver.outcome_checkGrants_stored_iff hstored,
      Resolver.outcome_checkGrants_of_stored hstored,
      fun _ => Resolver.outcome_resolve_of_stored hstored,
      fun _ _ => Resolver.storable_of_asked hstored⟩

/-! ## Two groups at the limit -/

namespace Newsroom

/-- A grant for everyone by way of the first group that cannot be stored, and one to update for the
last group that can. -/
def farGrants : List Grant :=
  [{ target := some ⟨9223372036854775808⟩, isPublic := true, view := true, update := false,
     delete := true },
   { target := some ⟨9223372036854775807⟩, isPublic := false, view := false, update := true,
     delete := false }]

def farStore : Store := (∅ : Store).saveGrants article "field_access" farGrants

/-- Everybody is in every group. -/
def crowd : Collaborators where
  holds _ _ := false
  grantsFor := farStore.grantsFor
  isMember _ _ := true

end Newsroom

/-- Saved as the grants of the article, the first is nobody's any more, not even to view, and the
second lets the editor update as before. -/
theorem Store.farGrants_failClosed :
    (∀ other, other ≠ "field_access" → (∅ : Store).itemsOf Newsroom.article.key other = []) ∧
    (Newsroom.farStore.grantsFor Newsroom.article).map Grant.target =
      [none, some ⟨9223372036854775807⟩] ∧
    ((Resolver.checkGrants Newsroom.editor Newsroom.article .view).eval
      { Newsroom.crowd with grantsFor := fun _ => Newsroom.farGrants }).outcome = .allowed ∧
    ((Resolver.checkGrants Newsroom.editor Newsroom.article .view).eval
      Newsroom.crowd).outcome ≠ .allowed ∧
    ((Resolver.checkGrants Newsroom.editor Newsroom.article .update).eval
      Newsroom.crowd).outcome = .allowed := by
  have honly : ∀ other, other ≠ "field_access" →
      (∅ : Store).itemsOf Newsroom.article.key other = [] := by
    intro other _
    simp [Store.itemsOf, Store.fieldsOf]
  obtain ⟨-, hsaved⟩ := Store.saveGrants_failsClosed (ε := String)
  obtain ⟨hback, hasking⟩ := hsaved ∅ Newsroom.article "field_access" Newsroom.farGrants honly
  have hcrowd := hasking Newsroom.crowd rfl Newsroom.editor
  refine ⟨honly, ?_, by decide, ?_, ?_⟩
  · rw [Newsroom.farStore, hback]
    decide
  · rw [Ne, (hcrowd .view).1]
    rintro ⟨-, g, hg, group, hsmall, hopens⟩
    have htarget := hopens.target
    simp only [Newsroom.farGrants, List.mem_cons, List.not_mem_nil, or_false] at hg
    rcases hg with rfl | rfl
    · cases htarget
      exact absurd hsmall (by decide)
    · cases hopens with
      | everyone _ _ hpublic => cases hpublic
      | member _ hgives _ _ _ => cases hgives
  · rw [(hcrowd .update).1]
    exact ⟨by decide, _, List.mem_cons_of_mem _ List.mem_cons_self, ⟨9223372036854775807⟩,
      by decide, .member rfl rfl (by decide) rfl rfl⟩

end AccessControl
