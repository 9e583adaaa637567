import AccessControl.Policy.Validation
import AccessControl.Proofs.StoreHistory
import Mathlib.Data.List.TakeWhile

/-!
# Consistent policies

The check of a policy goes through its roles and then through its resources, and stops at the first
thing that is wrong. What it is meant to find is a property of the whole document
(`Policy.Consistent`), in which there is no order; what it reports is about one place in it.

The two meet in `Policy.Breaks`: **what is wrong with an entry, given those before it**. Of two
resources with one key the second is at fault, and of several faults of one entry only one is
reported, an undeclared field being the smallest there is. The loop over the entries is said in
these terms twice: it finds nothing exactly if the keys differ and every entry is declared
(`entriesFault?_eq_none_iff`), and what it finds is wrong with the first entry with which anything
is (`entriesFault?_eq_some_iff`).

The roles come before all entries. The order in which they are gone through decides which of several
bad ones is named and nothing else (`Policy.validation_exact`).
-/

set_option autoImplicit false

namespace AccessControl

/-- A text is blank if trimming leaves nothing of it. -/
theorem Text.isBlankText_iff {s : String} : isBlankText s = true ↔ trim s.toList = [] := by
  rw [isBlankText, trim, List.reverse_eq_nil_iff, List.dropWhile_eq_nil_iff, List.all_eq_true]
  simp only [List.mem_reverse]
  constructor
  · intro hall c hc
    exact hall c ((List.dropWhile_sublist _).mem hc)
  · intro hrest c hc
    rw [← List.takeWhile_append_dropWhile (p := isBlank) (l := s.toList), List.mem_append] at hc
    rcases hc with hc | hc
    · exact List.mem_takeWhile_imp hc
    · exact hrest c hc

/-- In an ascending list the first name of a kind is the smallest. -/
theorem find?_eq_some_iff_of_ascending {names : List String} (hnames : names.Pairwise (· < ·))
    {p : String → Bool} {name : String} :
    names.find? p = some name ↔
      name ∈ names ∧ p name = true ∧ ∀ other ∈ names, p other = true → name ≤ other := by
  induction names with
  | nil => simp
  | cons first rest ih =>
    rw [List.pairwise_cons] at hnames
    obtain ⟨hfirst, hrest⟩ := hnames
    rw [List.find?_cons]
    cases hp : p first with
    | true =>
      constructor
      · intro h
        cases h
        refine ⟨List.mem_cons_self, hp, fun other hother _ => ?_⟩
        rcases List.mem_cons.mp hother with rfl | hother
        · exact String.le_refl _
        · exact Std.le_of_lt (hfirst other hother)
      · rintro ⟨hname, -, hsmallest⟩
        rcases List.mem_cons.mp hname with rfl | hname
        · rfl
        · exact absurd (hfirst name hname) (String.not_lt.mpr (hsmallest first List.mem_cons_self hp))
    | false =>
      simp only [ih hrest, List.mem_cons, forall_eq_or_imp, hp, Bool.false_eq_true, false_implies,
        true_and]
      constructor
      · rintro ⟨hname, hholds, hsmallest⟩
        exact ⟨Or.inr hname, hholds, hsmallest⟩
      · rintro ⟨rfl | hname, hholds, hsmallest⟩
        · simp [hp] at hholds
        · exact ⟨hname, hholds, hsmallest⟩

namespace Policy

/-! ## What a policy should be -/

/-- A role lists a permission of which trimming leaves nothing. -/
def ListsBlank (p : Policy) (role : RoleId) : Prop :=
  ∃ permissions, p.roles[role]? = some permissions ∧
    ∃ permission ∈ permissions, Text.trim permission.toList = []

/-- The bundle of an entry is declared, and so are all fields of the entry, with items or without, as
grant fields of that bundle. -/
def Declared (bundles : BundleMap) (e : Entry) : Prop :=
  ∃ rules, bundles[e.resource.bundle]? = some rules ∧ ∀ field ∈ e.fields, field ∈ rules.grantFields

/-- Nothing is wrong with a policy. -/
structure Consistent (p : Policy) : Prop where
  noBlank : ∀ role, ¬ p.ListsBlank role
  distinct : p.entries.Pairwise fun e other => e.resource.key ≠ other.resource.key
  declared : ∀ e ∈ p.entries, Declared p.bundles e

/-- What is wrong with an entry, given those before it. -/
inductive Breaks (bundles : BundleMap) (earlier : List Entry) (e : Entry) : Fault → Prop
  | duplicate (hknown : ∃ other ∈ earlier, other.resource.key = e.resource.key) :
      Breaks bundles earlier e (.duplicateResource e.resource.key)
  | unknownBundle (hnew : ∀ other ∈ earlier, other.resource.key ≠ e.resource.key)
      (hbundle : bundles[e.resource.bundle]? = none) :
      Breaks bundles earlier e (.unknownBundle e.resource.key)
  /-- The field is the smallest of those that are not declared. -/
  | unknownField {rules : BundleRules} {field : String}
      (hnew : ∀ other ∈ earlier, other.resource.key ≠ e.resource.key)
      (hbundle : bundles[e.resource.bundle]? = some rules)
      (hfield : field ∈ e.fields) (hundeclared : field ∉ rules.grantFields)
      (hsmallest : ∀ other ∈ e.fields, other ∉ rules.grantFields → field ≤ other) :
      Breaks bundles earlier e (.unknownGrantField e.resource.key field)

/-- Nothing is wrong with any of some entries, given those before it, the earlier ones among them. -/
def Sound (bundles : BundleMap) (earlier entries : List Entry) : Prop :=
  ∀ before e after, entries = before ++ e :: after →
    ∀ fault, ¬ Breaks bundles (earlier ++ before) e fault

variable {bundles : BundleMap} {earlier entries : List Entry} {keys : List ResourceKey} {e : Entry}
  {fault : Fault}

/-! ## One entry -/

theorem find?_undeclared {rules : BundleRules} {field : String} :
    (e.fields.keys.find? fun field => !rules.hasGrantField field) = some field ↔
      field ∈ e.fields ∧ field ∉ rules.grantFields ∧
        ∀ other ∈ e.fields, other ∉ rules.grantFields → field ≤ other := by
  rw [find?_eq_some_iff_of_ascending (Store.ascending_of_compare Std.ExtTreeMap.ordered_keys)]
  simp [BundleRules.hasGrantField]

/-- The check of an entry knows those before it by their keys alone. -/
theorem entryFault?_eq_some_iff
    (hkeys : ∀ key, key ∈ keys ↔ ∃ other ∈ earlier, other.resource.key = key) :
    entryFault? bundles keys e = some fault ↔ Breaks bundles earlier e fault := by
  unfold entryFault?
  by_cases hknown : e.resource.key ∈ keys
  · have hother := (hkeys _).mp hknown
    simp only [List.contains_iff_mem, hknown, if_true, Option.some.injEq]
    constructor
    · rintro rfl
      exact .duplicate hother
    · intro h
      obtain ⟨other, hmem, hsame⟩ := hother
      cases h with
      | duplicate _ => rfl
      | unknownBundle hnew _ | unknownField hnew _ _ _ _ => exact absurd hsame (hnew other hmem)
  · have hnew : ∀ other ∈ earlier, other.resource.key ≠ e.resource.key :=
      fun other hmem hsame => hknown ((hkeys _).mpr ⟨other, hmem, hsame⟩)
    simp only [List.contains_iff_mem, hknown, if_false]
    cases hbundle : bundles[e.resource.bundle]? with
    | none =>
      simp only [Option.some.injEq]
      constructor
      · rintro rfl
        exact .unknownBundle hnew hbundle
      · intro h
        cases h with
        | duplicate h => exact absurd ((hkeys _).mpr h) hknown
        | unknownBundle _ _ => rfl
        | unknownField _ hrules _ _ _ => simp [hbundle] at hrules
    | some rules =>
      simp only [Option.map_eq_some_iff, find?_undeclared]
      constructor
      · rintro ⟨field, ⟨hfield, hundeclared, hsmallest⟩, rfl⟩
        exact .unknownField hnew hbundle hfield hundeclared hsmallest
      · intro h
        cases h with
        | duplicate h => exact absurd ((hkeys _).mpr h) hknown
        | unknownBundle _ hnone => simp [hbundle] at hnone
        | unknownField _ hrules hfield hundeclared hsmallest =>
          rw [hbundle, Option.some.injEq] at hrules
          subst hrules
          exact ⟨_, ⟨hfield, hundeclared, hsmallest⟩, rfl⟩

theorem entryFault?_eq_none_iff :
    entryFault? bundles keys e = none ↔ e.resource.key ∉ keys ∧ Declared bundles e := by
  unfold entryFault? Declared
  by_cases hknown : e.resource.key ∈ keys
  · simp [hknown]
  · simp only [List.contains_iff_mem, hknown, if_false, not_false_eq_true, true_and]
    cases bundles[e.resource.bundle]? with
    | none => simp
    | some rules => simp [BundleRules.hasGrantField]

/-! ## All entries -/

theorem entriesFault?_eq_none_iff :
    entriesFault? bundles keys entries = none ↔
      (∀ e ∈ entries, e.resource.key ∉ keys ∧ Declared bundles e) ∧
        entries.Pairwise fun e other => e.resource.key ≠ other.resource.key := by
  induction entries generalizing keys with
  | nil => simp [entriesFault?]
  | cons e rest ih =>
    rw [entriesFault?]
    cases hentry : entryFault? bundles keys e with
    | some fault =>
      have hwrong : ¬ (e.resource.key ∉ keys ∧ Declared bundles e) := by
        rw [← entryFault?_eq_none_iff, hentry]
        simp
      simp only [reduceCtorEq, false_iff]
      rintro ⟨hall, -⟩
      exact hwrong (hall e List.mem_cons_self)
    | none =>
      obtain ⟨hnew, hdeclared⟩ := entryFault?_eq_none_iff.mp hentry
      simp only [ih, List.pairwise_cons, List.mem_cons, forall_eq_or_imp, not_or]
      constructor
      · rintro ⟨hall, hdistinct⟩
        exact ⟨⟨⟨hnew, hdeclared⟩, fun other h => ⟨(hall other h).1.2, (hall other h).2⟩⟩,
          fun other h hsame => (hall other h).1.1 hsame.symm, hdistinct⟩
      · rintro ⟨⟨-, hall⟩, hfirst, hdistinct⟩
        exact ⟨fun other h => ⟨⟨fun hsame => hfirst other h hsame.symm, (hall other h).1⟩,
          (hall other h).2⟩, hdistinct⟩

theorem sound_cons :
    Sound bundles earlier (e :: entries) ↔
      (∀ fault, ¬ Breaks bundles earlier e fault) ∧ Sound bundles (earlier ++ [e]) entries := by
  constructor
  · intro h
    refine ⟨?_, ?_⟩
    · simpa using h [] e entries rfl
    · intro before other after hentries
      simpa using h (e :: before) other after (by rw [hentries, List.cons_append])
  · rintro ⟨hfirst, hrest⟩ before other after hentries
    cases before with
    | nil =>
      cases hentries
      simpa using hfirst
    | cons first before =>
      cases hentries
      simpa using hrest before other after rfl

/-- **The loop over the entries finds what is wrong with the first with which anything is.** -/
theorem entriesFault?_eq_some_iff
    (hkeys : ∀ key, key ∈ keys ↔ ∃ other ∈ earlier, other.resource.key = key) :
    entriesFault? bundles keys entries = some fault ↔
      ∃ before e after, entries = before ++ e :: after ∧ Sound bundles earlier before ∧
        Breaks bundles (earlier ++ before) e fault := by
  -- The entry gone through joins the earlier ones, and its key theirs.
  induction entries generalizing earlier keys with
  | nil => simp [entriesFault?]
  | cons e rest ih =>
    rw [entriesFault?]
    cases hentry : entryFault? bundles keys e with
    | some found =>
      have hfound := (entryFault?_eq_some_iff hkeys).mp hentry
      simp only [Option.some.injEq]
      constructor
      · rintro rfl
        exact ⟨[], e, rest, rfl, by simp [Sound], by simpa using hfound⟩
      · rintro ⟨before, other, after, hentries, hsound, hbreaks⟩
        -- Nothing sound comes before the entry, so it is the first.
        cases before with
        | nil =>
          cases hentries
          rw [List.append_nil, ← entryFault?_eq_some_iff hkeys, hentry, Option.some.injEq] at hbreaks
          exact hbreaks
        | cons first before =>
          cases hentries
          exact absurd hfound ((sound_cons.mp hsound).1 found)
    | none =>
      have hfine : ∀ fault, ¬ Breaks bundles earlier e fault := by
        intro fault hbreaks
        rw [← entryFault?_eq_some_iff hkeys, hentry] at hbreaks
        exact nomatch hbreaks
      have hkeys' : ∀ key, key ∈ e.resource.key :: keys ↔
          ∃ other ∈ earlier ++ [e], other.resource.key = key := by
        intro key
        rw [List.mem_cons, hkeys]
        simp [or_comm, eq_comm (a := key), or_and_right, exists_or]
      simp only [ih hkeys', List.append_assoc, List.singleton_append]
      constructor
      · rintro ⟨before, other, after, rfl, hsound, hbreaks⟩
        exact ⟨e :: before, other, after, rfl, sound_cons.mpr ⟨hfine, hsound⟩, hbreaks⟩
      · rintro ⟨before, other, after, hentries, hsound, hbreaks⟩
        cases before with
        | nil =>
          cases hentries
          rw [List.append_nil] at hbreaks
          exact absurd hbreaks (hfine fault)
        | cons first before =>
          cases hentries
          exact ⟨before, other, after, rfl, (sound_cons.mp hsound).2, hbreaks⟩

/-! ## The roles, and the whole policy -/

variable {p : Policy} {order : List (RoleId × List String)}

theorem listsBlank_iff (horder : order.Perm p.roles.toList) {role : RoleId} :
    p.ListsBlank role ↔
      ∃ permissions, (role, permissions) ∈ order ∧ permissions.any Text.isBlankText = true := by
  simp only [ListsBlank, horder.mem_iff, Std.ExtTreeMap.mem_toList_iff_getElem?_eq_some,
    List.any_eq_true, Text.isBlankText_iff]

theorem roleFault?_eq_none_iff (horder : order.Perm p.roles.toList) :
    roleFault? order = none ↔ ∀ role, ¬ p.ListsBlank role := by
  rw [roleFault?, Option.map_eq_none_iff, List.find?_eq_none]
  simp only [listsBlank_iff horder, not_exists, not_and, Prod.forall]

theorem roleFault?_eq_some (horder : order.Perm p.roles.toList) (h : roleFault? order = some fault) :
    ∃ role, p.ListsBlank role ∧ fault = .emptyPermission role := by
  obtain ⟨⟨role, permissions⟩, hfind, hfault⟩ := Option.map_eq_some_iff.mp h
  have hblank : permissions.any Text.isBlankText = true := by
    simpa using List.find?_some hfind
  exact ⟨role, (listsBlank_iff horder).mpr ⟨permissions, List.mem_of_find?_eq_some hfind, hblank⟩,
    hfault.symm⟩

/-- **A policy passes if and only if it is consistent.** -/
theorem faultAlong?_eq_none_iff (horder : order.Perm p.roles.toList) :
    p.faultAlong? order = none ↔ p.Consistent := by
  unfold faultAlong?
  cases hrole : roleFault? order with
  | some fault =>
    simp only [reduceCtorEq, false_iff]
    intro h
    have hnone := (roleFault?_eq_none_iff horder).mpr h.noBlank
    simp [hrole] at hnone
  | none =>
    rw [roleFault?_eq_none_iff horder] at hrole
    simp only [entriesFault?_eq_none_iff, List.not_mem_nil, not_false_eq_true, true_and]
    constructor
    · rintro ⟨hdeclared, hdistinct⟩
      exact ⟨hrole, hdistinct, hdeclared⟩
    · intro h
      exact ⟨h.declared, h.distinct⟩

/-- **What the check of a policy finds.** In whatever order the roles are gone through, it finds nothing
if and only if the policy is consistent. If roles list blank permissions it names one of them, the
same one whatever resources and bundles there are. Otherwise it finds what is wrong with the first
entry, in document order, with which something is wrong, given those before it. -/
theorem validation_exact (p : Policy) (order : List (RoleId × List String))
    (horder : order.Perm p.roles.toList) :
    (p.faultAlong? order = none ↔ p.Consistent) ∧
    ((∃ role, p.ListsBlank role) →
      ∃ role, p.ListsBlank role ∧ ∀ bundles entries,
        ({ p with bundles, entries } : Policy).faultAlong? order = some (.emptyPermission role)) ∧
    ((∀ role, ¬ p.ListsBlank role) → ∀ fault, p.faultAlong? order = some fault ↔
      ∃ before e after, p.entries = before ++ e :: after ∧ Sound p.bundles [] before ∧
        Breaks p.bundles before e fault) := by
  refine ⟨faultAlong?_eq_none_iff horder, ?_, ?_⟩
  · rintro ⟨role, hblank⟩
    cases hrole : roleFault? order with
    | none => exact absurd hblank ((roleFault?_eq_none_iff horder).mp hrole role)
    | some fault =>
      obtain ⟨named, hnamed, rfl⟩ := roleFault?_eq_some horder hrole
      exact ⟨named, hnamed, fun bundles entries => by rw [faultAlong?, hrole]⟩
  · intro hnone fault
    have hkeys : ∀ key : ResourceKey,
        key ∈ [] ↔ ∃ other ∈ ([] : List Entry), other.resource.key = key := by simp
    rw [faultAlong?, (roleFault?_eq_none_iff horder).mpr hnone]
    exact entriesFault?_eq_some_iff hkeys

/-! ### A flawed policy

Two roles and three articles. The second article has two fields that are not declared, and the third
one is the first over again. -/

namespace Flawed

def first : Entry where
  resource := .plain ⟨7⟩ "article"
  fields := (∅ : FieldMap).insert "field_access" []

def second : Entry where
  resource := .plain ⟨8⟩ "article"
  fields := ((∅ : FieldMap).insert "title" []).insert "body" []

def policy : Policy where
  roles := ((∅ : Std.ExtTreeMap RoleId (List String)).insert .administrator ["edit\u3000"]).insert
    .authenticated []
  bundles := (∅ : BundleMap).insert "article" (.withGrantField "field_access")
  entries := [first, second, first]

/-- The roles the other way round. -/
def roles : List (RoleId × List String) := [(.authenticated, []), (.administrator, ["edit\u3000"])]

end Flawed

/-- What is reported is the smaller of the undeclared fields of the second article. -/
theorem flawed_undeclared_body :
    Flawed.roles.Perm Flawed.policy.roles.toList ∧ (∀ role, ¬ Flawed.policy.ListsBlank role) ∧
    ∃ before e after, Flawed.policy.entries = before ++ e :: after ∧
      Sound Flawed.policy.bundles [] before ∧
      Breaks Flawed.policy.bundles before e (.unknownGrantField ⟨"article", ⟨8⟩⟩ "body") := by
  have horder : Flawed.roles.Perm Flawed.policy.roles.toList := by decide
  have hnone : ∀ role, ¬ Flawed.policy.ListsBlank role :=
    (roleFault?_eq_none_iff horder).mp (by decide)
  refine ⟨horder, hnone, ?_⟩
  exact ((validation_exact Flawed.policy Flawed.roles horder).2.2 hnone _).mp (by decide)

end Policy

end AccessControl
