import AccessControl.Document.Policy
import AccessControl.Proofs.DescribedEnvironment
import AccessControl.Proofs.Numerals
import AccessControl.Reference

/-!
# Naming the resources of a policy

A resource is listed by its cache tag, and what is listed should be a name that can be given back.
The tag is the bundle, a colon and digits; since no digit is a colon, the last colon of the tag is
that one, whatever colons and blanks the bundle has (`Reference.parse_cacheTag`). A policy that has
passed the check declares each resource once, so the name leads to the declared one, with its lock
and its owner (`Policy.Consistent.locate_eq`).

**What cannot be named is a resource of the bundle without a name.** Nothing in the check of a policy
rules out such a bundle, and a resource of it may be listed, but no text is read as its name
(`Policy.Consistent.exists_name_iff`).
-/

set_option autoImplicit false

namespace AccessControl

namespace Reference

/-! ## Reading names -/

theorem splitLast_eq_none {cs : List Char} (h : ':' ∉ cs) : splitLast cs = none := by
  induction cs with
  | nil => rfl
  | cons c rest ih =>
    rw [List.mem_cons, not_or] at h
    rw [splitLast, ih h.2]
    exact if_neg (Ne.symm h.1)

theorem splitLast_append {before after : List Char} (h : ':' ∉ after) :
    splitLast (before ++ ':' :: after) = some (before, after) := by
  induction before with
  | nil =>
    rw [List.nil_append, splitLast, splitLast_eq_none h]
    rfl
  | cons c before ih => rw [List.cons_append, splitLast, ih]

/-- The last colon of a cache tag is the one in front of the number. -/
theorem splitLast_cacheTag (r : Resource) :
    splitLast r.cacheTag.toList = some (r.bundle.toList, r.id.text.toList) := by
  have hcolon : ':' ∉ r.id.text.toList := by
    intro hmem
    exact absurd (Text.isDigit_of_mem_wordText hmem) (by decide)
  rw [Resource.cacheTag, String.toList_append, String.toList_append, List.append_assoc]
  exact splitLast_append hcolon

theorem parse_of_splitLast {text : String} {name : Reference} {after : List Char}
    (hsplit : splitLast text.toList = some (name.bundle.toList, after)) (hbundle : name.bundle ≠ "")
    (hread : Text.readNumeral after = .ok name.id.number.toNat) : parse text = .ok name := by
  rw [parse, hsplit]
  cases hcs : name.bundle.toList with
  | nil => exact absurd (String.toList_eq_nil_iff.mp hcs) hbundle
  | cons c rest =>
    simp only [hread]
    rw [← hcs, String.ofList_toList, UInt64.ofNat_toNat]

/-- **A cache tag is read as the resource it is the tag of**, if the bundle has a name. -/
theorem parse_cacheTag (r : Resource) :
    parse r.cacheTag = if r.bundle = "" then .error .emptyBundle else .ok ⟨r.bundle, r.id⟩ := by
  by_cases hbundle : r.bundle = ""
  · rw [parse, splitLast_cacheTag, if_pos hbundle, hbundle]
    rfl
  · rw [if_neg hbundle]
    exact parse_of_splitLast (splitLast_cacheTag r) hbundle (Text.readNumeral_wordText r.id.number)

theorem bundle_ne_of_parse {text : String} {r : Reference} (h : parse text = .ok r) :
    r.bundle ≠ "" := by
  unfold parse at h
  split at h
  · exact nomatch h
  · exact nomatch h
  · next bundle id hne hsplit =>
    split at h
    · cases h
      intro hempty
      exact hne (String.ofList_eq_empty_iff.mp hempty)
    · exact nomatch h

/-! ## The resource that is meant -/

theorem locate_eq_ok {p : Policy} {name : Reference} {r : Resource} (h : name.locate p = .ok r) :
    r.bundle = name.bundle ∧ r.id = name.id := by
  unfold locate at h
  split at h
  · next found hfound =>
    cases h
    have hkey := List.find?_some hfound
    rw [Bool.and_eq_true, beq_iff_eq, beq_iff_eq] at hkey
    exact hkey
  · unfold Resource.create at h
    split at h
    · exact nomatch h
    · cases h
      exact ⟨rfl, rfl⟩

/-- A name that was read has a bundle, so it leads to a resource in any policy. -/
theorem locate_of_parse {text : String} {name : Reference} (h : parse text = .ok name)
    (p : Policy) : name.locate p = .ok (name.resolve p) := by
  unfold locate resolve
  cases p.resource? name.bundle name.id with
  | some r => rfl
  | none =>
    rw [Resource.create, if_neg]
    · rfl
    · rw [String.isEmpty_iff]
      exact bundle_ne_of_parse h

end Reference

/-- What a subject sees of some resources are those that it may view. -/
theorem Chain.eval_visible (c : Chain) (s : Subject) (resources : List Resource)
    (k : Collaborators) :
    (c.visible s resources).eval k =
      resources.filter fun r => ((c.check s r .view).eval k).isAllowed := by
  induction resources with
  | nil => rfl
  | cons r rest ih =>
    rw [visible, Consultation.eval_bind, Consultation.eval_bind, Consultation.eval_pure, ih,
      List.filter_cons]

namespace Policy

variable {p : Policy} {r : Resource}

/-- Each resource is declared once, so the one that is found is the one that was meant. -/
theorem Consistent.resource?_eq (hp : p.Consistent) (hr : r ∈ p.resources) :
    p.resource? r.bundle r.id = some r := by
  obtain ⟨e, he, rfl⟩ := List.mem_map.mp hr
  have hself : (e.resource.bundle == e.resource.bundle && e.resource.id == e.resource.id) = true := by
    simp
  cases hfound : p.resource? e.resource.bundle e.resource.id with
  | none => exact absurd hself (List.find?_eq_none.mp hfound _ hr)
  | some found =>
    obtain ⟨other, hother, rfl⟩ := List.mem_map.mp (List.mem_of_find?_eq_some hfound)
    have hsame := List.find?_some hfound
    rw [Bool.and_eq_true, beq_iff_eq, beq_iff_eq] at hsame
    have hkey : other.resource.key = e.resource.key := by
      rw [Resource.key, hsame.1, hsame.2]
      rfl
    rw [eq_of_key_eq hp.distinct he hother hkey]

theorem Consistent.locate_eq (hp : p.Consistent) (hr : r ∈ p.resources) :
    (⟨r.bundle, r.id⟩ : Reference).locate p = .ok r := by
  rw [Reference.locate, hp.resource?_eq hr]

theorem Consistent.exists_name_iff (hp : p.Consistent) (hr : r ∈ p.resources) :
    (∃ text name, Reference.parse text = .ok name ∧ name.resolve p = r) ↔ r.bundle ≠ "" := by
  constructor
  · rintro ⟨text, name, hparse, rfl⟩
    rw [(Reference.locate_eq_ok (Reference.locate_of_parse hparse p)).1]
    exact Reference.bundle_ne_of_parse hparse
  · intro hbundle
    have hparse : Reference.parse r.cacheTag = .ok ⟨r.bundle, r.id⟩ := by
      rw [Reference.parse_cacheTag, if_neg hbundle]
    have hlocate := Reference.locate_of_parse hparse p
    rw [hp.locate_eq hr, Except.ok.injEq] at hlocate
    exact ⟨r.cacheTag, ⟨r.bundle, r.id⟩, hparse, hlocate.symm⟩

/-- A policy is loaded if it is decoded and nothing is wrong with it. -/
theorem load_eq_ok_iff {text : String} :
    load text = .ok p ↔ decode.ofText text = .ok p ∧ p.Consistent := by
  rw [load, ← faultAlong?_eq_none_iff .rfl]
  cases decode.ofText text with
  | error refusal =>
    refine iff_of_false (fun h => by cases h) ?_
    rintro ⟨h, -⟩
    cases h
  | ok q =>
    simp only [Except.mapError, bind, Except.bind]
    cases hfault : q.fault? with
    | none =>
      constructor
      · intro h
        cases h
        exact ⟨rfl, hfault⟩
      · rintro ⟨h, -⟩
        exact congrArg _ (Except.ok.inj h)
    | some fault =>
      refine iff_of_false (fun h => by cases h) ?_
      rintro ⟨h, hnone⟩
      cases h
      cases hfault.symm.trans hnone

/-- **The resources of a policy that was loaded, and their names.** The cache tag of a declared resource
is read as its bundle and number if the bundle has a name, and refused if not; bundle and number lead
to the resource as it was declared. So it can be named by some text if and only if its bundle has a
name. It is listed for a subject exactly where it may be viewed, whatever the order in which the maps
of the policy were gone through, with stock permissions or without. -/
theorem declared_named (document : String) (p : Policy) (hload : load document = .ok p)
    (r : Resource) (hr : r ∈ p.resources) :
    Reference.parse r.cacheTag =
      (if r.bundle = "" then .error .emptyBundle else .ok ⟨r.bundle, r.id⟩) ∧
    (⟨r.bundle, r.id⟩ : Reference).locate p = .ok r ∧
    ((∃ text name, Reference.parse text = .ok name ∧ name.resolve p = r) ↔ r.bundle ≠ "") ∧
    ∀ (l : Listing) (stock : Bool) (s : Subject),
      r ∈ (((p.environmentAlong l).chain stock).visible s p.resources).eval
          (p.environmentAlong l).collaborators ↔
        ((((p.environmentAlong l).chain stock).check s r .view).eval
          (p.environmentAlong l).collaborators).outcome = .allowed := by
  obtain ⟨-, hp⟩ := load_eq_ok_iff.mp hload
  refine ⟨Reference.parse_cacheTag r, hp.locate_eq hr, hp.exists_name_iff hr, ?_⟩
  intro l stock s
  rw [Chain.eval_visible, List.mem_filter, Decision.isAllowed_iff]
  exact and_iff_right hr

/-! ### A board

One page of a bundle with a colon and a blank in its name, locked and owned, and one page of the bundle
without a name. -/

namespace Board

def document : String :=
  "\x7b\"roles\":\x7b\"anonymous\":[\"access content\"]\x7d," ++
    "\"bundles\":\x7b\"\":\x7b\x7d,\"news: local\":\x7b\x7d\x7d," ++
    "\"resources\":[\x7b\"id\":1,\"bundle\":\"\"\x7d," ++
    "\x7b\"id\":7,\"bundle\":\"news: local\",\"locked\":true,\"owner_id\":3\x7d]\x7d"

def unnamed : Resource := .plain ⟨1⟩ ""

def news : Resource := { id := ⟨7⟩, bundle := "news: local", locked := true, owner := some ⟨3⟩ }

def policy : Policy where
  roles := (∅ : Std.ExtTreeMap RoleId (List String)).insert .anonymous ["access content"]
  bundles := ((∅ : BundleMap).insert "" {}).insert "news: local" {}
  entries := [{ resource := unnamed }, { resource := news }]

theorem load_document : load document = .ok policy := by decide +kernel

end Board

/-- The page of the bundle with a colon in its name is named by its tag. -/
theorem news_named :
    load Board.document = .ok Board.policy ∧ Board.news ∈ Board.policy.resources ∧
    Reference.parse "news: local:7" = .ok ⟨"news: local", ⟨7⟩⟩ ∧
    (⟨"news: local", ⟨7⟩⟩ : Reference).locate Board.policy = .ok Board.news ∧
    Board.news ∈ ((Board.policy.environment.chain true).visible (.visitor ∅)
      Board.policy.resources).eval Board.policy.environment.collaborators := by
  have hr : Board.news ∈ Board.policy.resources := by decide
  obtain ⟨hparse, hlocate, -, hvisible⟩ :=
    declared_named Board.document Board.policy Board.load_document Board.news hr
  refine ⟨Board.load_document, hr, hparse, hlocate, ?_⟩
  exact (hvisible Board.policy.listing true (.visitor ∅)).mpr (by decide +kernel)

/-- The other page is listed for a visitor, who may view it, but its tag is refused. -/
theorem unnamed_refused :
    load Board.document = .ok Board.policy ∧ Board.unnamed ∈ Board.policy.resources ∧
    Board.unnamed ∈ ((Board.policy.environment.chain true).visible (.visitor ∅)
      Board.policy.resources).eval Board.policy.environment.collaborators ∧
    Reference.parse Board.unnamed.cacheTag = .error .emptyBundle :=
  ⟨Board.load_document, by decide, by decide +kernel, Reference.parse_cacheTag Board.unnamed⟩

end Policy

end AccessControl
