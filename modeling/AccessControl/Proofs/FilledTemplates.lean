import AccessControl.Proofs.GatedViews
import AccessControl.Proofs.Numerals

/-!
# Templates that are filled in

A template is filled in by two replacements one after the other, and the second goes over a text
that the first has already put numbers into. Bundles may be called anything, `{id}` and `{bundle}`
included, so it is not clear from the procedure what of its result is the template's and what has
been put in.

It is as if the template had been taken apart first (`Template.pieces`), **which is done without
knowing the resource**, and each piece filled in by itself (`Template.expand_eq`). The one thing to
show is that a number never completes a mark: marks have no digits in them, so a piece of a mark
that stands after the first replacement stood there before (`prefix_of_prefix_replaceAll`). What the
second replacement puts in nobody looks at.

A template with `{id}` keeps the numbers of a bundle apart. Two texts from one template that are
equal are of equal length, so the two numbers are, and then the first place that a number went to
shows that they are the same (`id_eq_of_expand_eq`). Who is given the permission for one resource is
therefore given nothing for another.
-/

set_option autoImplicit false

namespace AccessControl

/-! ## Replacing -/

namespace Text

variable {first c : Char} {pattern replacement before rest : List Char}

theorem replaceFrom_append (pattern replacement skipped rest : List Char) :
    replaceFrom pattern replacement skipped.length (skipped ++ rest) =
      replaceAll pattern replacement rest := by
  induction skipped with
  | nil => rfl
  | cons c skipped ih => exact ih

/-- An occurrence is replaced, and the text goes on behind it. -/
theorem replaceAll_occurrence (rest : List Char) :
    replaceAll (first :: pattern) replacement (first :: pattern ++ rest) =
      replacement ++ replaceAll (first :: pattern) replacement rest := by
  have hprefix : (first :: pattern).isPrefixOf (first :: (pattern ++ rest)) = true := by
    simp
  show replaceFrom (first :: pattern) replacement 0 (first :: (pattern ++ rest)) = _
  rw [replaceFrom, if_pos hprefix]
  exact congrArg (replacement ++ ·) (replaceFrom_append _ _ pattern rest)

theorem replaceAll_cons (h : ¬ pattern <+: c :: rest) :
    replaceAll pattern replacement (c :: rest) = c :: replaceAll pattern replacement rest := by
  rw [← List.isPrefixOf_iff_prefix] at h
  rw [replaceAll, replaceFrom, if_neg h]
  rfl

/-- No occurrence starts in a text without the first character of the pattern. -/
theorem replaceAll_append (h : first ∉ before) :
    replaceAll (first :: pattern) replacement (before ++ rest) =
      before ++ replaceAll (first :: pattern) replacement rest := by
  induction before with
  | nil => rfl
  | cons c before ih =>
    rw [List.mem_cons, not_or] at h
    have hprefix : ¬ first :: pattern <+: c :: (before ++ rest) := by
      simp [h.1]
    rw [List.cons_append, replaceAll_cons hprefix, ih h.2, List.cons_append]

theorem replaceAll_of_not_mem {text : List Char} (h : first ∉ text) :
    replaceAll (first :: pattern) replacement text = text := by
  have happend : replaceAll (first :: pattern) replacement (text ++ []) = text ++ [] :=
    replaceAll_append h
  rwa [List.append_nil] at happend

/-- What has none of the replacement's characters in it and stands at the head of a text after
replacing stood there before. -/
theorem prefix_of_prefix_replaceAll {word text : List Char} (hne : replacement ≠ [])
    (hword : ∀ c ∈ word, c ∉ replacement)
    (h : word <+: replaceAll (first :: pattern) replacement text) : word <+: text := by
  induction word generalizing text with
  | nil => exact List.nil_prefix
  | cons x word ih =>
    cases text with
    | nil => simp [replaceAll, replaceFrom] at h
    | cons c rest =>
      by_cases hstart : first :: pattern <+: c :: rest
      · obtain ⟨after, htext⟩ := hstart
        rw [← htext, replaceAll_occurrence] at h
        obtain ⟨y, ys, rfl⟩ := List.exists_cons_of_ne_nil hne
        rw [List.cons_append, List.cons_prefix_cons] at h
        exact absurd (h.1 ▸ List.mem_cons_self) (hword x List.mem_cons_self)
      · rw [replaceAll_cons hstart, List.cons_prefix_cons] at h
        rw [List.cons_prefix_cons]
        exact ⟨h.1, ih (fun y hy => hword y (List.mem_cons_of_mem x hy)) h.2⟩

end Text

namespace Template

/-! ## Taking a template apart -/

/-- A piece of a template. -/
inductive Piece where
  /-- A character that stands for itself. -/
  | plain (c : Char)
  /-- The place of the number. -/
  | id
  /-- The place of the bundle. -/
  | bundle
deriving DecidableEq

/-- What a piece stands for. -/
def Piece.fill (r : Resource) : Piece → List Char
  | .plain c => [c]
  | .id => r.id.text.toList
  | .bundle => r.bundle.toList

/-- The pieces of what is left of a template, the first `skip` characters of which belong to a mark
that has been passed already. -/
def piecesFrom : Nat → List Char → List Piece
  | _, [] => []
  | skip + 1, _ :: rest => piecesFrom skip rest
  | 0, c :: rest =>
    if idMark.isPrefixOf (c :: rest) then .id :: piecesFrom (idMark.length - 1) rest
    else if bundleMark.isPrefixOf (c :: rest) then
      .bundle :: piecesFrom (bundleMark.length - 1) rest
    else .plain c :: piecesFrom 0 rest

/-- The pieces of a template, read once from left to right. -/
def pieces (template : List Char) : List Piece := piecesFrom 0 template

theorem piecesFrom_append (skipped rest : List Char) :
    piecesFrom skipped.length (skipped ++ rest) = pieces rest := by
  induction skipped with
  | nil => rfl
  | cons c skipped ih => exact ih

@[simp] theorem pieces_nil : pieces [] = [] := rfl

@[simp] theorem pieces_idMark (rest : List Char) : pieces (idMark ++ rest) = .id :: pieces rest :=
  congrArg (Piece.id :: ·) (piecesFrom_append ['i', 'd', '\x7d'] rest)

@[simp] theorem pieces_bundleMark (rest : List Char) :
    pieces (bundleMark ++ rest) = .bundle :: pieces rest :=
  congrArg (Piece.bundle :: ·)
    (piecesFrom_append ['b', 'u', 'n', 'd', 'l', 'e', '\x7d'] rest)

theorem pieces_cons {c : Char} {rest : List Char} (hid : ¬ idMark <+: c :: rest)
    (hbundle : ¬ bundleMark <+: c :: rest) : pieces (c :: rest) = .plain c :: pieces rest := by
  rw [← List.isPrefixOf_iff_prefix] at hid hbundle
  rw [pieces, piecesFrom, if_neg hid, if_neg hbundle]
  rfl

/-- From left to right through a template: behind a mark, and behind a character where no mark
starts. -/
theorem markInduction {motive : List Char → Prop} (nil : motive [])
    (id : ∀ rest, motive rest → motive (idMark ++ rest))
    (bundle : ∀ rest, motive rest → motive (bundleMark ++ rest))
    (plain : ∀ c rest, ¬ idMark <+: c :: rest → ¬ bundleMark <+: c :: rest → motive rest →
      motive (c :: rest))
    (template : List Char) : motive template := by
  induction hlength : template.length using Nat.strongRecOn generalizing template with
  | ind n ih =>
    subst hlength
    by_cases hid : idMark <+: template
    · obtain ⟨rest, rfl⟩ := hid
      have hshorter : rest.length < (idMark ++ rest).length := by
        rw [List.length_append]
        exact Nat.lt_add_of_pos_left (by decide)
      exact id rest (ih _ hshorter rest rfl)
    · by_cases hbundle : bundleMark <+: template
      · obtain ⟨rest, rfl⟩ := hbundle
        have hshorter : rest.length < (bundleMark ++ rest).length := by
          rw [List.length_append]
          exact Nat.lt_add_of_pos_left (by decide)
        exact bundle rest (ih _ hshorter rest rfl)
      · cases template with
        | nil => exact nil
        | cons c rest => exact plain c rest hid hbundle (ih _ (by simp) rest rfl)

/-! ## Filling it in -/

variable {template : String} {cs : List Char} {r r' : Resource}

theorem isDigit_of_mem_text {c : Char} (hc : c ∈ r.id.text.toList) : c.isDigit = true :=
  Text.isDigit_of_mem_wordText hc

theorem text_ne_nil (r : Resource) : r.id.text.toList ≠ [] := by
  intro hnil
  exact r.id.text_ne_empty (String.toList_inj.mp hnil)

/-- **A number completes no mark.** -/
theorem bundleMark_prefix_of_replaceAll {c : Char} {rest : List Char}
    (h : bundleMark <+: c :: Text.replaceAll idMark r.id.text.toList rest) :
    bundleMark <+: c :: rest := by
  rw [bundleMark, List.cons_prefix_cons] at h ⊢
  refine ⟨h.1, Text.prefix_of_prefix_replaceAll (text_ne_nil r) ?_ h.2⟩
  intro x hx hdigit
  have hnot : x.isDigit = false := by
    simp only [List.mem_cons, List.not_mem_nil, or_false] at hx
    rcases hx with rfl | rfl | rfl | rfl | rfl | rfl | rfl <;> rfl
  simp [isDigit_of_mem_text hdigit] at hnot

/-- **The two replacements fill in the pieces of the template.** -/
theorem replaceAll_replaceAll (r : Resource) (template : List Char) :
    Text.replaceAll bundleMark r.bundle.toList
        (Text.replaceAll idMark r.id.text.toList template) =
      (pieces template).flatMap (Piece.fill r) := by
  induction template using markInduction with
  | nil => rfl
  | id rest ih =>
    have hnumber : '\x7b' ∉ r.id.text.toList := by
      intro hmem
      exact absurd (isDigit_of_mem_text hmem) (by decide)
    rw [idMark, Text.replaceAll_occurrence, bundleMark, Text.replaceAll_append hnumber, ← idMark,
      ← bundleMark, ih, pieces_idMark, List.flatMap_cons, Piece.fill]
  | bundle rest ih =>
    -- The first replacement passes over a mark for the bundle, in which no other mark starts.
    have hpassed : Text.replaceAll idMark r.id.text.toList (bundleMark ++ rest) =
        bundleMark ++ Text.replaceAll idMark r.id.text.toList rest := by
      have htail : '\x7b' ∉ ['b', 'u', 'n', 'd', 'l', 'e', '\x7d'] := by simp
      have hhead : ¬ idMark <+: bundleMark ++ rest := by simp [idMark, bundleMark]
      rw [bundleMark, List.cons_append] at hhead ⊢
      rw [Text.replaceAll_cons hhead, idMark, Text.replaceAll_append htail]
      rfl
    rw [hpassed, bundleMark, Text.replaceAll_occurrence, ← bundleMark, ih, pieces_bundleMark,
      List.flatMap_cons, Piece.fill]
  | plain c rest hid hbundle ih =>
    have hstays : ¬ bundleMark <+: c :: Text.replaceAll idMark r.id.text.toList rest := by
      intro h
      exact hbundle (bundleMark_prefix_of_replaceAll h)
    rw [Text.replaceAll_cons hid, Text.replaceAll_cons hstays, ih, pieces_cons hid hbundle,
      List.flatMap_cons, Piece.fill, List.singleton_append]

theorem expand_eq (template : String) (r : Resource) :
    expand template r = String.ofList ((pieces template.toList).flatMap (Piece.fill r)) := by
  rw [expand, replaceAll_replaceAll]

theorem flatMap_fill_plain (r : Resource) (cs : List Char) :
    (cs.map Piece.plain).flatMap (Piece.fill r) = cs := by
  induction cs with
  | nil => rfl
  | cons c cs ih => simp [Piece.fill, ih]

/-! ## Numbers are kept apart -/

theorem id_mem_pieces (h : idMark <:+: cs) : Piece.id ∈ pieces cs := by
  induction cs using markInduction with
  | nil => simp [idMark] at h
  | id rest _ => simp
  | bundle rest ih =>
    have hrest : idMark <:+: rest := by
      simpa [idMark, bundleMark, List.infix_cons_iff] using h
    simp [ih hrest]
  | plain c rest hid hbundle ih =>
    rw [List.infix_cons_iff, or_iff_right hid] at h
    simp [pieces_cons hid hbundle, ih h]

/-- Of two resources of one bundle, the one with more digits has the longer text, by as much as
there are places for the number. -/
theorem length_flatMap_fill (hbundle : r'.bundle = r.bundle) (ps : List Piece) :
    (ps.flatMap (Piece.fill r)).length + ps.count .id * r'.id.text.toList.length =
      (ps.flatMap (Piece.fill r')).length + ps.count .id * r.id.text.toList.length := by
  induction ps with
  | nil => simp
  | cons p ps ih =>
    rw [List.flatMap_cons, List.flatMap_cons, List.length_append, List.length_append]
    cases p with
    | plain c =>
      rw [List.count_cons_of_ne (by simp)]
      simp only [Piece.fill]
      omega
    | id =>
      rw [List.count_cons_self, Nat.add_mul, Nat.add_mul]
      simp only [Piece.fill]
      omega
    | bundle =>
      rw [List.count_cons_of_ne (by simp)]
      simp only [Piece.fill, hbundle]
      omega

theorem eq_of_flatMap_fill_eq (hbundle : r'.bundle = r.bundle)
    (hlength : r'.id.text.toList.length = r.id.text.toList.length) {ps : List Piece}
    (hid : Piece.id ∈ ps) (h : ps.flatMap (Piece.fill r') = ps.flatMap (Piece.fill r)) :
    r'.id.text.toList = r.id.text.toList := by
  induction ps with
  | nil => exact absurd hid List.not_mem_nil
  | cons p ps ih =>
    rw [List.flatMap_cons, List.flatMap_cons] at h
    cases p with
    | id => exact (List.append_inj h hlength).1
    | plain c =>
      rw [List.mem_cons, or_iff_right nofun] at hid
      exact ih hid (List.append_cancel_left h)
    | bundle =>
      rw [List.mem_cons, or_iff_right nofun] at hid
      simp only [Piece.fill, hbundle] at h
      exact ih hid (List.append_cancel_left h)

/-- **What a template with a place for the number gives for two resources of one bundle tells their
numbers apart.** -/
theorem id_eq_of_expand_eq (hid : idMark <:+: template.toList) (hbundle : r'.bundle = r.bundle)
    (h : expand template r' = expand template r) : r'.id = r.id := by
  have hmem := id_mem_pieces hid
  rw [expand_eq, expand_eq, String.ofList_inj] at h
  have hlength : r'.id.text.toList.length = r.id.text.toList.length := by
    have hcount := length_flatMap_fill hbundle (pieces template.toList)
    rw [h] at hcount
    exact Nat.eq_of_mul_eq_mul_left (List.count_pos_iff.mpr hmem) (Nat.add_left_cancel hcount)
  have hdigits := eq_of_flatMap_fill_eq hbundle hlength hmem h
  exact Identifier.eq_of_text_eq (String.toList_inj.mp hdigits)

end Template

/-! ## What a permission for one resource opens -/

/-- The environment in which a role gives one more permission. -/
def Policy.Environment.granting (e : Policy.Environment) (role : RoleId) (p : String) :
    Policy.Environment :=
  { e with registry := e.registry.grant role p }

variable {e : Policy.Environment} {role : RoleId} {s : Subject} {r : Resource} {op : Operation}
  {p q : String}

/-- A view permission that is not held is not held by way of another one. -/
theorem Chain.outcome_view_granting (hne : p ≠ q)
    (hview : q ∈ (e.bundles.rulesFor r.bundle).viewPermissionsFor r)
    (hlacks : e.registry.holds s.roles.withoutAdministrator q = false) (stock : Bool) :
    ((((e.granting role p).chain stock).check s r .view).eval
      (e.granting role p).collaborators).outcome = .forbidden := by
  have hgated : (e.bundles.rulesFor r.bundle).viewPermissions ≠ [] := by
    intro hnone
    rw [BundleRules.viewPermissionsFor, hnone] at hview
    exact absurd hview List.not_mem_nil
  have hstill : (e.granting role p).collaborators.holds s.roles.withoutAdministrator q = false :=
    (Registry.holds_grant_of_ne hne _).trans hlacks
  rw [Chain.outcome_check_gated (c := (e.granting role p).chain stock) hgated, if_neg]
  intro hall
  rw [hall q hview] at hstill
  cases hstill

/-- Anything but a view asks the registry for the admin permission and for no other. -/
theorem Resolver.eval_resolve_granting (hop : op ≠ .view)
    (hne : p ≠ (e.bundles.rulesFor r.bundle).adminPermissionFor r) :
    (resolve e.bundles s r op).eval (e.granting role p).collaborators =
      (resolve e.bundles s r op).eval e.collaborators := by
  refine (resolve_asksOnly e.bundles s r op).eval_congr ?_
  intro question hoccasion
  cases hoccasion with
  | admin _ _ => exact Registry.holds_grant_of_ne hne s.roles
  | viewPermission hview _ => exact absurd hview hop
  | grants _ _ | member _ _ _ _ _ => rfl

namespace Template

/-- **Templates are filled in piece by piece, and numbers are kept apart.** What a template gives
for a resource is what its pieces stand for, one after the other; the pieces are those of the
template alone. A bundle without an admin permission has the one of the template `administer
{bundle}`. If a template has a place for the number, then for two resources of one bundle with
different numbers it gives different permissions, and if a role is given the one for the first
resource,

* nobody comes to hold, or ceases to hold, the one for the second;
* a view of the second that takes this permission stays forbidden to whoever lacks it, with stock
  permissions or without;
* if it is the admin permission of the bundle, the resolver decides anything else about the second
  as before. -/
theorem expand_apart :
    (∀ (template : String) (r : Resource), expand template r =
      String.ofList ((pieces template.toList).flatMap (Piece.fill r))) ∧
    (∀ (rules : BundleRules) (r : Resource), rules.adminPermission = none →
      rules.adminPermissionFor r = expand "administer \x7bbundle\x7d" r) ∧
    ∀ (template : String) (r r' : Resource), idMark <:+: template.toList →
      r'.bundle = r.bundle → r'.id ≠ r.id →
      expand template r' ≠ expand template r ∧
      ∀ (e : Policy.Environment) (role : RoleId),
        (∀ roles,
          (e.granting role (expand template r)).registry.holds roles (expand template r') =
            e.registry.holds roles (expand template r')) ∧
        (∀ s, template ∈ (e.bundles.rulesFor r'.bundle).viewPermissions →
          e.registry.holds s.roles.withoutAdministrator (expand template r') = false →
          ∀ stock, ((((e.granting role (expand template r)).chain stock).check s r' .view).eval
            (e.granting role (expand template r)).collaborators).outcome = .forbidden) ∧
        ((e.bundles.rulesFor r'.bundle).adminPermission = some template →
          ∀ s op, op ≠ .view →
            (Resolver.resolve e.bundles s r' op).eval
                (e.granting role (expand template r)).collaborators =
              (Resolver.resolve e.bundles s r' op).eval e.collaborators) := by
  refine ⟨expand_eq, ?_, ?_⟩
  · intro rules r hnone
    have hpieces : pieces "administer \x7bbundle\x7d".toList =
        "administer ".toList.map Piece.plain ++ [.bundle] := by decide
    rw [BundleRules.adminPermissionFor_of_none hnone, expand_eq, hpieces, List.flatMap_append,
      flatMap_fill_plain, List.flatMap_singleton, Piece.fill, String.ofList_append,
      String.ofList_toList, String.ofList_toList]
  · intro template r r' hid hbundle hnumber
    have hne : expand template r ≠ expand template r' := by
      intro h
      exact hnumber (id_eq_of_expand_eq hid hbundle h.symm)
    refine ⟨hne.symm, ?_⟩
    intro e role
    refine ⟨?_, ?_, ?_⟩
    · intro roles
      exact Registry.holds_grant_of_ne hne roles
    · intro s hview hlacks stock
      exact Chain.outcome_view_granting hne (List.mem_map_of_mem hview) hlacks stock
    · intro hadmin s op hop
      refine Resolver.eval_resolve_granting hop ?_
      rw [BundleRules.adminPermissionFor_of_some hadmin]
      exact hne

/-! ### Issues of a bundle with a bad name

The bundle is called by the two marks, and the number of the one issue starts with that of the
other. -/

namespace Serial

def template : String := "read \x7bbundle\x7d/\x7bid\x7d\x7bid\x7d"

def issue (n : UInt64) : Resource := .plain ⟨n⟩ "\x7bid\x7d\x7bbundle\x7d"

def environment : Policy.Environment where
  registry := ∅
  membership := ∅
  store := ∅
  bundles := (∅ : BundleMap).insert "\x7bid\x7d\x7bbundle\x7d" { viewPermissions := [template] }
  resources := []

end Serial

/-- The name of the bundle is put in as it is, and readers of the first issue cannot view the
eleventh. -/
theorem issues_apart :
    idMark <:+: Serial.template.toList ∧ (Serial.issue 11).bundle = (Serial.issue 1).bundle ∧
    (Serial.issue 11).id ≠ (Serial.issue 1).id ∧
    expand Serial.template (Serial.issue 1) = "read \x7bid\x7d\x7bbundle\x7d/11" ∧
    expand Serial.template (Serial.issue 11) ≠ "read \x7bid\x7d\x7bbundle\x7d/11" ∧
    ∀ (role : RoleId) (s : Subject),
      ((((Serial.environment.granting role "read \x7bid\x7d\x7bbundle\x7d/11").chain true).check s
        (Serial.issue 11) .view).eval
          (Serial.environment.granting role
            "read \x7bid\x7d\x7bbundle\x7d/11").collaborators).outcome = .forbidden := by
  have hid : idMark <:+: Serial.template.toList := ⟨"read \x7bbundle\x7d/".toList, idMark, rfl⟩
  have hnumber : (Serial.issue 11).id ≠ (Serial.issue 1).id := by decide
  have hfirst : expand Serial.template (Serial.issue 1) = "read \x7bid\x7d\x7bbundle\x7d/11" := by
    decide
  obtain ⟨-, -, happart⟩ := expand_apart
  obtain ⟨hne, hgranted⟩ :=
    happart Serial.template (Serial.issue 1) (Serial.issue 11) hid rfl hnumber
  rw [hfirst] at hne hgranted
  refine ⟨hid, rfl, hnumber, hfirst, hne, ?_⟩
  intro role s
  obtain ⟨-, hview, -⟩ := hgranted Serial.environment role
  refine hview s (by decide) ?_ true
  rw [← Bool.not_eq_true, Registry.holds_iff]
  simp [Serial.environment, Registry.gives]

end Template

end AccessControl
