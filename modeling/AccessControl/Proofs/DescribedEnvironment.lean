import AccessControl.Proofs.Consistency
import AccessControl.Proofs.FilledTemplates
import Mathlib.Data.List.Pairwise

/-!
# The environment of a policy

An environment is built by going through a document and changing stores one binding at a time. What
it says afterwards should be what the document says, whatever the order in which the maps of the
document were gone through.

For roles and groups this holds of any document: each is a map to sets that only grows, so an element
is in it in the end exactly if some binding lists it (`has_foldl_add`, for both). **For the items of
resources it does not.** A save replaces what was saved before, so of two entries with one key the
second would take fields away from the first; the loader is a history of saves, and that the last
save of a field is the only one (`Policy.itemsOf_store`) is what a policy has been checked for.

That no blank permission is ever held comes from the same check. It makes a blank admin permission
one that opens nothing and a blank view permission one that closes everything
(`Policy.environment_exact`).
-/

set_option autoImplicit false

namespace AccessControl

/-! ## Maps that only grow -/

section Growing

variable {M α β : Type} {add : M → α → β → M} (has : M → α → β → Prop)

theorem has_foldl_add_members
    (hadd : ∀ m a b a' b', has (add m a b) a' b' ↔ has m a' b' ∨ a = a' ∧ b = b')
    {m : M} {a a' : α} {b' : β} {members : List β} :
    has (members.foldl (add · a ·) m) a' b' ↔ has m a' b' ∨ a = a' ∧ b' ∈ members := by
  induction members generalizing m with
  | nil => simp
  | cons b rest ih =>
    rw [List.foldl_cons, ih, hadd, or_assoc, ← and_or_left, List.mem_cons, eq_comm (a := b)]

/-- **What has grown from lists has what they list**, and what was there before. -/
theorem has_foldl_add
    (hadd : ∀ m a b a' b', has (add m a b) a' b' ↔ has m a' b' ∨ a = a' ∧ b = b')
    {m : M} {bindings : List (α × List β)} {a' : α} {b' : β} :
    has (bindings.foldl (fun m (a, members) => members.foldl (add · a ·) m) m) a' b' ↔
      has m a' b' ∨ ∃ members, (a', members) ∈ bindings ∧ b' ∈ members := by
  induction bindings generalizing m with
  | nil => simp
  | cons binding rest ih =>
    obtain ⟨a, members⟩ := binding
    rw [List.foldl_cons, ih, has_foldl_add_members has hadd, or_assoc]
    simp only [List.mem_cons, Prod.mk.injEq, or_and_right, exists_or]
    refine or_congr_right (or_congr_left ?_)
    constructor
    · rintro ⟨rfl, hmem⟩
      exact ⟨members, ⟨rfl, rfl⟩, hmem⟩
    · rintro ⟨listed, ⟨rfl, rfl⟩, hmem⟩
      exact ⟨rfl, hmem⟩

/-- In particular, what has grown from nothing along the bindings of a map has what the map lists. -/
theorem has_foldl_add_iff [Ord α] [Std.TransOrd α] [Std.LawfulEqOrd α]
    (hadd : ∀ m a b a' b', has (add m a b) a' b' ↔ has m a' b' ∨ a = a' ∧ b = b')
    {map : Std.ExtTreeMap α (List β)} {bindings : List (α × List β)}
    (hbindings : bindings.Perm map.toList) {m : M} {a : α} {b : β} (hnone : ¬ has m a b) :
    has (bindings.foldl (fun m (a, members) => members.foldl (add · a ·) m) m) a b ↔
      ∃ members, map[a]? = some members ∧ b ∈ members := by
  rw [has_foldl_add has hadd, or_iff_right hnone]
  simp only [hbindings.mem_iff, Std.ExtTreeMap.mem_toList_iff_getElem?_eq_some]

end Growing

/-- A map is made of its bindings, in any order. -/
theorem ofList_eq_of_perm {α β : Type} [DecidableEq α] [Ord α] [Std.TransOrd α]
    [Std.LawfulEqOrd α]
    {map : Std.ExtTreeMap α β} {bindings : List (α × β)} (hbindings : bindings.Perm map.toList) :
    Std.ExtTreeMap.ofList bindings = map := by
  have hdistinct : bindings.Pairwise fun a b => ¬ compare a.1 b.1 = .eq :=
    map.distinct_keys_toList.perm hbindings.symm fun hne h => hne (Std.OrientedCmp.eq_symm h)
  have hmem : ∀ a b, (a, b) ∈ bindings ↔ map[a]? = some b := by
    intro a b
    rw [hbindings.mem_iff, Std.ExtTreeMap.mem_toList_iff_getElem?_eq_some]
  refine Std.ExtTreeMap.ext_getElem? fun a => ?_
  cases ha : map[a]? with
  | some b =>
    exact Std.ExtTreeMap.getElem?_ofList_of_mem Std.ReflCmp.compare_self hdistinct
      ((hmem a b).mpr ha)
  | none =>
    refine Std.ExtTreeMap.getElem?_ofList_of_contains_eq_false ?_
    rw [← Bool.not_eq_true, List.contains_iff_mem, List.mem_map]
    rintro ⟨⟨a', b⟩, hlisted, rfl⟩
    rw [hmem, ha] at hlisted
    exact nomatch hlisted

theorem Registry.mem_permissionsOf {registry : Registry} {role : RoleId} {p : String} :
    p ∈ registry.permissionsOf role ↔ registry.gives role p = true := by
  rw [permissionsOf, Std.ExtTreeSet.mem_toList, Std.ExtTreeMap.getD_eq_getD_getElem?, gives_iff]

/-! ## Blank permissions -/

/-- Nothing is filled in where there is nothing to see. -/
theorem Template.expand_of_isBlankText {template : String} (h : Text.isBlankText template = true)
    (r : Resource) : expand template r = template := by
  have hmark : '\x7b' ∉ template.toList := by
    intro hmem
    have hblank := List.all_eq_true.mp h _ hmem
    exact absurd hblank (by decide)
  rw [expand, idMark, Text.replaceAll_of_not_mem hmark, bundleMark, Text.replaceAll_of_not_mem hmark,
    String.ofList_toList]

/-- Without the admin permission the rules decide, but for the deletion of what is locked. -/
theorem Resolver.eval_resolve_of_notAdmin {k : Collaborators} {bundles : BundleMap} {s : Subject}
    {r : Resource} (op : Operation)
    (hnot : k.holds s.roles ((bundles.rulesFor r.bundle).adminPermissionFor r) = false) :
    (resolve bundles s r op).eval k =
      if op = .delete ∧ r.locked = true then (Decision.forbidden Lock.reason).withTag r.cacheTag
      else (applyRules (bundles.rulesFor r.bundle) s r op).eval k := by
  by_cases hlocked : op = .delete ∧ r.locked = true
  · obtain ⟨rfl, hlocked⟩ := hlocked
    rw [resolve_locked bundles hlocked, if_pos ⟨rfl, hlocked⟩]
    rfl
  · rw [if_neg hlocked]
    by_cases hview : op = .view
    · subst hview
      rw [resolve_view]
    · have hopen : op = .delete → r.locked = false := fun hop => by simpa [hop] using hlocked
      rw [eval_resolve, eval_lock hview hopen, if_neg (by simp [hnot])]

namespace Policy

/-! ## Roles, groups and bundles -/

/-- A listing goes through the maps of a policy, each binding once. -/
structure Listing.Lists (l : Listing) (p : Policy) : Prop where
  roles : l.roles.Perm p.roles.toList
  groups : l.groups.Perm p.groups.toList
  bundles : l.bundles.Perm p.bundles.toList

/-- The ascending order, in which the environment of a policy is built, is such a listing. -/
theorem lists_listing (p : Policy) : p.listing.Lists p := ⟨.rfl, .rfl, .rfl⟩

variable {p : Policy} {l : Listing}

theorem gives_registry (hl : l.Lists p) {role : RoleId} {permission : String} :
    l.registry.gives role permission = true ↔
      ∃ listed, p.roles[role]? = some listed ∧ permission ∈ listed :=
  has_foldl_add_iff (fun (registry : Registry) role permission => registry.gives role permission = true)
    (fun _ _ _ _ _ => Registry.gives_grant) hl.roles (by simp [Registry.gives])

theorem isMember_membership (hl : l.Lists p) {subject : SubjectId} {group : GroupId} :
    l.membership.isMember subject group = true ↔
      ∃ members, p.groups[group]? = some members ∧ subject ∈ members :=
  has_foldl_add_iff (fun (m : Membership) group subject => m.isMember subject group = true)
    (fun _ _ _ _ _ => Membership.isMember_add) hl.groups (by simp [Membership.isMember])

/-- Each bundle is declared once, so the rules inserted for it are not replaced by others. -/
theorem bundleMap_eq (hl : l.Lists p) : l.bundleMap = p.bundles := by
  have hfold : l.bundleMap = Std.ExtTreeMap.ofList l.bundles := by
    rw [Std.ExtTreeMap.ofList_eq_insertMany_empty, Std.ExtTreeMap.insertMany_list_eq_foldl]
    rfl
  exact hfold.trans (ofList_eq_of_perm hl.bundles)

/-! ## The items of resources -/

/-- Loading the store is a history of saves. -/
def history (p : Policy) : List Save :=
  p.entries.flatMap fun e => e.fields.toList.map fun (field, items) => .raw e.resource field items

theorem store_eq_replay (p : Policy) : p.store = Store.replay p.history := by
  rw [store, Store.replay, history, List.foldl_flatMap]
  simp only [List.foldl_map]
  rfl

theorem mem_history {w : Save} :
    w ∈ p.history ↔ ∃ e ∈ p.entries, ∃ field items, e.fields[field]? = some items ∧
      w = .raw e.resource field items := by
  simp only [history, List.mem_flatMap, List.mem_map, Prod.exists,
    Std.ExtTreeMap.mem_toList_iff_getElem?_eq_some, eq_comm (b := w)]

theorem eq_of_key_eq
    (hdistinct : p.entries.Pairwise fun e other => e.resource.key ≠ other.resource.key)
    {e other : Entry} (he : e ∈ p.entries) (hother : other ∈ p.entries)
    (hkey : other.resource.key = e.resource.key) : other = e := by
  have hsymm : Std.Symm fun e other : Entry => e.resource.key ≠ other.resource.key :=
    ⟨fun _ _ => Ne.symm⟩
  exact Classical.byContradiction fun hne => hdistinct.forall hother he hne hkey

/-- **With one entry to a key, a field has the items of that entry.** -/
theorem itemsOf_store
    (hdistinct : p.entries.Pairwise fun e other => e.resource.key ≠ other.resource.key)
    {e : Entry} (he : e ∈ p.entries) (field : String) :
    p.store.itemsOf e.resource.key field = e.fields[field]?.getD [] := by
  rw [store_eq_replay, Store.itemsOf_replay]
  refine Store.lastSaved_eq_of_forall ?_ ?_
  · intro w hw hkey hfield
    obtain ⟨other, hother, name, items, hitems, rfl⟩ := mem_history.mp hw
    obtain rfl := eq_of_key_eq hdistinct he hother hkey
    cases hfield
    show items = other.fields[name]?.getD []
    rw [hitems, Option.getD_some]
  · intro hne
    cases hitems : e.fields[field]? with
    | none => simp [hitems] at hne
    | some items =>
      exact ⟨_, mem_history.mpr ⟨e, he, field, items, hitems, rfl⟩, rfl, rfl⟩

theorem itemsOf_store_undeclared {key : ResourceKey}
    (hundeclared : ∀ e ∈ p.entries, e.resource.key ≠ key) (field : String) :
    p.store.itemsOf key field = [] := by
  rw [store_eq_replay, Store.itemsOf_replay]
  refine Store.lastSaved_eq_of_forall ?_ (fun h => absurd rfl h)
  intro w hw hkey _
  obtain ⟨e, he, _, _, _, rfl⟩ := mem_history.mp hw
  exact absurd hkey (hundeclared e he)

theorem grantsFor_store
    (hdistinct : p.entries.Pairwise fun e other => e.resource.key ≠ other.resource.key)
    {e : Entry} (he : e ∈ p.entries) :
    p.store.grantsFor e.resource =
      e.fields.toList.flatMap fun (_, items) => items.map Grant.ofItem := by
  have hcover : ∀ field, p.store.itemsOf e.resource.key field ≠ [] → field ∈ e.fields.keys := by
    intro field hne
    rw [itemsOf_store hdistinct he] at hne
    rw [Std.ExtTreeMap.mem_keys, Std.ExtTreeMap.mem_iff_isSome_getElem?]
    cases hitems : e.fields[field]? with
    | none => simp [hitems] at hne
    | some items => rfl
  rw [Store.grantsFor_eq_flatMap (Store.ascending_of_compare Std.ExtTreeMap.ordered_keys) hcover,
    Store.flatMap_toList_eq_keys]
  simp only [itemsOf_store hdistinct he]

theorem grantsFor_store_undeclared {r : Resource}
    (hundeclared : ∀ e ∈ p.entries, e.resource.key ≠ r.key) : p.store.grantsFor r = [] :=
  Store.grantsFor_eq_flatMap (List.Pairwise.nil : ([] : List String).Pairwise (· < ·))
    fun field hne => absurd (itemsOf_store_undeclared hundeclared field) hne

/-! ## The whole environment -/

/-- An environment says what a policy says. -/
structure Describes (p : Policy) (env : Environment) : Prop where
  holds : ∀ roles permission, env.registry.holds roles permission = true ↔
    ∃ role ∈ roles, ∃ listed, p.roles[role]? = some listed ∧ permission ∈ listed
  /-- The permissions of a role are those it lists, in ascending order and none twice. -/
  permissionsOf : ∀ role, (env.registry.permissionsOf role).Pairwise (· < ·) ∧
    ∀ permission, permission ∈ env.registry.permissionsOf role ↔
      ∃ listed, p.roles[role]? = some listed ∧ permission ∈ listed
  isMember : ∀ subject group, env.membership.isMember subject group = true ↔
    ∃ members, p.groups[group]? = some members ∧ subject ∈ members
  rulesFor : ∀ bundle, env.bundles.rulesFor bundle = p.bundles[bundle]?.getD {}
  /-- The grants of a declared resource are its items, by the names of the fields. -/
  declared : ∀ e ∈ p.entries, env.store.grantsFor e.resource =
    e.fields.toList.flatMap fun (_, items) => items.map Grant.ofItem
  undeclared : ∀ r : Resource, (∀ e ∈ p.entries, e.resource.key ≠ r.key) →
    env.store.grantsFor r = []
  resources : env.resources = p.entries.map Entry.resource

theorem Consistent.describes (hp : p.Consistent) (hl : l.Lists p) :
    p.Describes (p.environmentAlong l) where
  holds roles permission := by
    rw [Registry.holds_iff]
    simp only [environmentAlong, gives_registry hl]
  permissionsOf role := by
    refine ⟨Store.ascending_of_compare Std.ExtTreeSet.ordered_toList, fun permission => ?_⟩
    rw [Registry.mem_permissionsOf]
    exact gives_registry hl
  isMember subject group := isMember_membership hl
  rulesFor bundle := by
    rw [environmentAlong, bundleMap_eq hl, BundleMap.rulesFor_eq]
  declared e he := grantsFor_store hp.distinct he
  undeclared r hundeclared := grantsFor_store_undeclared hundeclared
  resources := rfl

/-- Nobody holds a blank permission. -/
theorem Consistent.holds_blank (hp : p.Consistent) (hl : l.Lists p) (roles : RoleSet)
    {permission : String} (hblank : Text.isBlankText permission = true) :
    (p.environmentAlong l).registry.holds roles permission = false := by
  rw [← Bool.not_eq_true, (hp.describes hl).holds]
  rintro ⟨role, -, listed, hlisted, hmem⟩
  exact hp.noBlank role ⟨listed, hlisted, permission, hmem, Text.isBlankText_iff.mp hblank⟩

theorem Consistent.rulesFor_eq (hp : p.Consistent) (hl : l.Lists p) {bundle : String}
    {rules : BundleRules} (hrules : p.bundles[bundle]? = some rules) :
    (p.environmentAlong l).bundles.rulesFor bundle = rules := by
  rw [(hp.describes hl).rulesFor, hrules, Option.getD_some]

/-- A blank admin permission lets nobody past the rules. -/
theorem Consistent.eval_resolve_blank (hp : p.Consistent) (hl : l.Lists p) {r : Resource}
    {rules : BundleRules} {template : String} (hrules : p.bundles[r.bundle]? = some rules)
    (hadmin : rules.adminPermission = some template) (hblank : Text.isBlankText template = true)
    (s : Subject) (op : Operation) :
    (Resolver.resolve (p.environmentAlong l).bundles s r op).eval
        (p.environmentAlong l).collaborators =
      if op = .delete ∧ r.locked = true then (Decision.forbidden Lock.reason).withTag r.cacheTag
      else (Resolver.applyRules rules s r op).eval (p.environmentAlong l).collaborators := by
  have hpermission : rules.adminPermissionFor r = template := by
    rw [BundleRules.adminPermissionFor_of_some hadmin]
    exact Template.expand_of_isBlankText hblank r
  have hnot := hp.holds_blank hl s.roles hblank
  rw [← hpermission, ← hp.rulesFor_eq hl hrules] at hnot
  rw [Resolver.eval_resolve_of_notAdmin op hnot, hp.rulesFor_eq hl hrules]

/-- A blank view permission lets nobody view. -/
theorem Consistent.outcome_view_blank (hp : p.Consistent) (hl : l.Lists p) {r : Resource}
    {rules : BundleRules} {template : String} (hrules : p.bundles[r.bundle]? = some rules)
    (hview : template ∈ rules.viewPermissions) (hblank : Text.isBlankText template = true)
    (stock : Bool) (s : Subject) :
    ((((p.environmentAlong l).chain stock).check s r .view).eval
      (p.environmentAlong l).collaborators).outcome = .forbidden := by
  have hmem : template ∈ rules.viewPermissionsFor r :=
    List.mem_map.mpr ⟨template, hview, Template.expand_of_isBlankText hblank r⟩
  have hnot := hp.holds_blank hl s.roles.withoutAdministrator hblank
  rw [← hp.rulesFor_eq hl hrules] at hview hmem
  rw [Chain.outcome_check_gated (c := (p.environmentAlong l).chain stock)
    (List.ne_nil_of_mem hview), if_neg fun hall => ?_]
  exact absurd (hall template hmem) (by simp [Environment.collaborators, hnot])

/-- **The environment of a policy that has passed the check.** Whatever the order in which its roles were
gone through for the check, and whatever the order in which its maps are gone through for the
environment, the environment says what the policy says. Nobody holds a blank permission in it. So
whoever asks about a bundle with a blank admin permission gets what the rules of the bundle say, the
deletion of a locked resource excepted, and whoever asks to view where viewing takes a blank
permission is refused. -/
theorem environment_exact (p : Policy) (order : List (RoleId × List String))
    (horder : order.Perm p.roles.toList) (hvalid : p.faultAlong? order = none)
    (l : Listing) (hl : l.Lists p) :
    p.Describes (p.environmentAlong l) ∧
    (∀ roles permission, Text.isBlankText permission = true →
      (p.environmentAlong l).registry.holds roles permission = false) ∧
    (∀ (r : Resource) (rules : BundleRules) (template : String),
      p.bundles[r.bundle]? = some rules → rules.adminPermission = some template →
      Text.isBlankText template = true → ∀ s op,
        (Resolver.resolve (p.environmentAlong l).bundles s r op).eval
            (p.environmentAlong l).collaborators =
          if op = .delete ∧ r.locked = true then
            (Decision.forbidden Lock.reason).withTag r.cacheTag
          else (Resolver.applyRules rules s r op).eval (p.environmentAlong l).collaborators) ∧
    (∀ (r : Resource) (rules : BundleRules) (template : String),
      p.bundles[r.bundle]? = some rules → template ∈ rules.viewPermissions →
      Text.isBlankText template = true → ∀ stock s,
        ((((p.environmentAlong l).chain stock).check s r .view).eval
          (p.environmentAlong l).collaborators).outcome = .forbidden) := by
  have hp := (faultAlong?_eq_none_iff horder).mp hvalid
  refine ⟨hp.describes hl, ?_, ?_, ?_⟩
  · intro roles permission hblank
    exact hp.holds_blank hl roles hblank
  · intro r rules template hrules hadmin hblank s op
    exact hp.eval_resolve_blank hl hrules hadmin hblank s op
  · intro r rules template hrules hview hblank stock s
    exact hp.outcome_view_blank hl hrules hview hblank stock s

/-! ### A shop

Editors and readers, one group, and two bundles: nobody is let past the rules of the one, and nobody
may view the other. -/

namespace Shop

def article : Entry where
  resource := .plain ⟨7⟩ "article"
  fields := (∅ : FieldMap).insert "field_access"
    [((∅ : FieldItem).insert Grant.targetKey (.int 1)).insert Grant.updateKey (.int 1)]

def articleRules : BundleRules :=
  { BundleRules.withGrantField "field_access" with adminPermission := some " \t" }

def draftRules : BundleRules := { viewPermissions := ["\u3000"] }

def editor : RoleId := ⟨"editor", by decide⟩

def policy : Policy where
  roles := ((∅ : Std.ExtTreeMap RoleId (List String)).insert .administrator
    ["edit any article content", "administer article"]).insert editor ["access content"]
  groups := (∅ : Std.ExtTreeMap GroupId (List SubjectId)).insert ⟨1⟩ [⟨2⟩, ⟨1⟩]
  bundles := ((∅ : BundleMap).insert "article" articleRules).insert "draft" draftRules
  entries := [article]

/-- Every map the other way round. -/
def listing : Listing where
  roles := [(editor, ["access content"]),
    (.administrator, ["edit any article content", "administer article"])]
  groups := [(⟨1⟩, [⟨2⟩, ⟨1⟩])]
  bundles := [("draft", draftRules), ("article", articleRules)]

end Shop

/-- The environment is that of the document: the grant of the article is there, and so is the
administrator, whom the rules of the article refuse like anyone else outside the group; the draft is
open to nobody. -/
theorem shop_environment :
    Shop.listing.roles.Perm Shop.policy.roles.toList ∧
    Shop.policy.faultAlong? Shop.listing.roles = none ∧ Shop.listing.Lists Shop.policy ∧
    (Shop.policy.environmentAlong Shop.listing).registry.holds
      (Subject.account ⟨3⟩ ((∅ : RoleSet).insert .administrator)).roles "administer article" = true ∧
    (Shop.policy.environmentAlong Shop.listing).store.grantsFor Shop.article.resource =
      [{ target := some ⟨1⟩, isPublic := false, view := false, update := true, delete := false }] ∧
    (∀ s, (Resolver.resolve (Shop.policy.environmentAlong Shop.listing).bundles s
        Shop.article.resource .update).eval
          (Shop.policy.environmentAlong Shop.listing).collaborators =
      (Resolver.applyRules Shop.articleRules s Shop.article.resource .update).eval
          (Shop.policy.environmentAlong Shop.listing).collaborators) ∧
    ∀ s, ((((Shop.policy.environmentAlong Shop.listing).chain true).check s (.plain ⟨8⟩ "draft")
        .view).eval (Shop.policy.environmentAlong Shop.listing).collaborators).outcome =
      .forbidden := by
  have horder : Shop.listing.roles.Perm Shop.policy.roles.toList := by decide
  have hvalid : Shop.policy.faultAlong? Shop.listing.roles = none := by decide
  have hl : Shop.listing.Lists Shop.policy := ⟨horder, by decide, by decide⟩
  obtain ⟨hdescribes, -, hadmin, hview⟩ :=
    environment_exact Shop.policy Shop.listing.roles horder hvalid Shop.listing hl
  refine ⟨horder, hvalid, hl, ?_, ?_, ?_, ?_⟩
  · exact (hdescribes.holds _ _).mpr ⟨.administrator, by decide,
      ["edit any article content", "administer article"], by decide, by decide⟩
  · rw [hdescribes.declared Shop.article List.mem_cons_self]
    decide
  · intro s
    exact hadmin Shop.article.resource Shop.articleRules " \t" (by decide) rfl (by decide) s .update
  · intro s
    exact hview (.plain ⟨8⟩ "draft") Shop.draftRules "\u3000" (by decide) List.mem_cons_self
      (by decide) true s

end Policy

end AccessControl
