import AccessControl.Proofs.Consistency
import AccessControl.Proofs.NamedResources
import AccessControl.Proofs.Occasions

/-!
# What names a resource, and what it cannot get around

A resource can be named in many ways, since zeros and a plus sign in front of its number change
nothing. Which texts are names is said without the procedure that reads them
(`Reference.parse_eq_ok_iff`): a bundle with a name, a colon, and a numeral, the colon being the
last one. What is written for a name that was read is read as the same name, and no two resources
share a cache tag, not even with the colons that bundles may have (`Resource.eq_of_cacheTag_eq`).

What matters is what all these names lead to. In a policy that has passed the check it is the
declared resource if there is one, under each of its names, **and with its lock**: since what is
looked up is a number and not a text, there is no way of writing the number of a locked resource
that has it deleted.
-/

set_option autoImplicit false

namespace AccessControl

namespace Reference

/-! ## The last colon -/

variable {cs before after : List Char}

theorem not_mem_of_splitLast_eq_none (h : splitLast cs = none) : ':' ∉ cs := by
  induction cs with
  | nil => exact List.not_mem_nil
  | cons c rest ih =>
    rw [splitLast] at h
    cases hrest : splitLast rest with
    | some _ => simp [hrest] at h
    | none =>
      by_cases hc : c = ':'
      · simp [hrest, hc] at h
      · rw [List.mem_cons, not_or]
        exact ⟨Ne.symm hc, ih hrest⟩

theorem splitLast_eq_some_iff :
    splitLast cs = some (before, after) ↔ cs = before ++ ':' :: after ∧ ':' ∉ after := by
  constructor
  · intro h
    induction cs generalizing before with
    | nil => cases h
    | cons c rest ih =>
      rw [splitLast] at h
      -- A colon further on wins, and this one counts only where there is none.
      cases hrest : splitLast rest with
      | some parts =>
        rw [hrest] at h
        cases h
        obtain ⟨heq, hlast⟩ := ih hrest
        exact ⟨by rw [heq, List.cons_append], hlast⟩
      | none =>
        by_cases hc : c = ':'
        · simp only [hrest, hc, if_true, Option.some.injEq, Prod.mk.injEq] at h
          obtain ⟨rfl, rfl⟩ := h
          exact ⟨by rw [hc, List.nil_append], not_mem_of_splitLast_eq_none hrest⟩
        · simp [hrest, hc] at h
  · rintro ⟨heq, hlast⟩
    rw [heq, splitLast_append hlast]

/-! ## The texts that are names -/

variable {text : String} {name : Reference}

/-- **The texts that are read as a name**: its bundle, which has one, and a numeral for its number
after the last colon. -/
theorem parse_eq_ok_iff :
    parse text = .ok name ↔
      ∃ number : String, text = name.bundle ++ ":" ++ number ∧ ':' ∉ number.toList ∧
        name.bundle ≠ "" ∧ Text.IsNumeral name.id.number.toNat number.toList := by
  constructor
  · intro h
    have hbundle := bundle_ne_of_parse h
    unfold parse at h
    split at h
    · cases h
    · cases h
    · rename_i before after _ hsplit
      obtain ⟨htext, hlast⟩ := splitLast_eq_some_iff.mp hsplit
      cases hnumber : Text.readNumeral after with
      | error fault => simp [hnumber] at h
      | ok n =>
        simp only [hnumber, Except.ok.injEq] at h
        subst h
        have hnumeral := Text.readNumeral_eq_ok_iff.mp hnumber
        refine ⟨String.ofList after, ?_, by rwa [String.toList_ofList], hbundle, ?_⟩
        · rw [← String.toList_inj, htext]
          simp
        · rw [String.toList_ofList]
          show Text.IsNumeral (UInt64.ofNat n).toNat after
          rwa [UInt64.toNat_ofNat_of_lt' hnumeral.fits]
  · rintro ⟨number, htext, hlast, hbundle, hnumeral⟩
    have hsplit : splitLast text.toList = some (name.bundle.toList, number.toList) := by
      rw [splitLast_eq_some_iff, htext]
      exact ⟨by simp, hlast⟩
    exact parse_of_splitLast hsplit hbundle (Text.readNumeral_eq_ok_iff.mpr hnumeral)

/-- What is written for a name is read as that name. -/
theorem parse_text (hbundle : name.bundle ≠ "") : parse name.text = .ok name := by
  have h : parse name.text = if name.bundle = "" then .error .emptyBundle else .ok name :=
    parse_cacheTag (.plain name.id name.bundle)
  rw [h, if_neg hbundle]

/-! ## What a name leads to -/

variable {p : Policy} {r : Resource}

theorem resolve_declared (hp : p.Consistent) (hr : r ∈ p.resources)
    (hbundle : r.bundle = name.bundle) (hid : r.id = name.id) : name.resolve p = r := by
  have hfound := hp.resource?_eq hr
  rw [hbundle, hid] at hfound
  rw [resolve, hfound, Option.getD_some]

theorem resolve_undeclared (hnone : ∀ r ∈ p.resources, r.bundle = name.bundle → r.id ≠ name.id) :
    name.resolve p = .plain name.id name.bundle := by
  have hfound : p.resource? name.bundle name.id = none := by
    refine List.find?_eq_none.mpr ?_
    intro r hr hkey
    rw [Bool.and_eq_true, beq_iff_eq, beq_iff_eq] at hkey
    exact hnone r hr hkey.1 hkey.2
  rw [resolve, hfound, Option.getD_none]

end Reference

/-! ## Cache tags -/

/-- **No two resources share a cache tag**, but for lock and owner. -/
theorem Resource.eq_of_cacheTag_eq {r r' : Resource} (h : r.cacheTag = r'.cacheTag) :
    r.bundle = r'.bundle ∧ r.id = r'.id := by
  have hparts := congrArg (fun tag : String => Reference.splitLast tag.toList) h
  simp only [Reference.splitLast_cacheTag, Option.some.injEq, Prod.mk.injEq,
    String.toList_inj] at hparts
  exact ⟨hparts.1, Identifier.eq_of_text_eq hparts.2⟩

/-! ## Names and locks -/

/-- **Names are exact, and there is no way around a lock.** A text is read as a name if and only if
it is the bundle of that, which is not empty, a colon, and a numeral for its number without a colon
in it. What is written for a name with a bundle is read as that name, and so is what is written for
any name that was read. Resources with the same cache tag have the same bundle and the same number.

In a policy in which nothing is wrong, in whatever order its roles are gone through, a name that was
read leads to the declared resource of its bundle and number if there is one, and else to one
without lock and owner. If there is one and it is locked, its deletion is refused, and nobody is
asked about it. -/
theorem Reference.names_exact {ε : Type} :
    (∀ text name, parse text = .ok name ↔
      ∃ number : String, text = name.bundle ++ ":" ++ number ∧ ':' ∉ number.toList ∧
        name.bundle ≠ "" ∧ Text.IsNumeral name.id.number.toNat number.toList) ∧
    (∀ name : Reference, name.bundle ≠ "" → parse name.text = .ok name) ∧
    (∀ text name, parse text = .ok name → parse name.text = .ok name) ∧
    (∀ r r' : Resource, r.cacheTag = r'.cacheTag → r.bundle = r'.bundle ∧ r.id = r'.id) ∧
    ∀ (p : Policy) (order : List (RoleId × List String)), order.Perm p.roles.toList →
      p.faultAlong? order = none → ∀ text name, parse text = .ok name →
        name.locate p = .ok (name.resolve p) ∧
        (∀ r ∈ p.resources, r.bundle = name.bundle → r.id = name.id → name.resolve p = r) ∧
        ((∀ r ∈ p.resources, r.bundle = name.bundle → r.id ≠ name.id) →
          name.resolve p = Resource.plain name.id name.bundle) ∧
        ∀ r ∈ p.resources, r.bundle = name.bundle → r.id = name.id → r.locked = true →
          ∀ (l : Policy.Listing) (stock : Bool) (s : Subject) (respond : Respondent ε),
            ∃ d, (((p.environmentAlong l).chain stock).check s (name.resolve p) .delete).run
                respond [] = (.ok d, []) ∧
              d.outcome = .forbidden := by
  refine ⟨fun _ _ => parse_eq_ok_iff, fun _ => parse_text,
    fun _ _ hparse => parse_text (bundle_ne_of_parse hparse),
    fun _ _ => Resource.eq_of_cacheTag_eq, ?_⟩
  intro p order horder hvalid text name hparse
  have hp : p.Consistent := (Policy.faultAlong?_eq_none_iff horder).mp hvalid
  refine ⟨locate_of_parse hparse p, fun _ hr => resolve_declared hp hr, resolve_undeclared, ?_⟩
  intro r hr hbundle hid hlocked l stock s respond
  rw [resolve_declared hp hr hbundle hid, Chain.check_locked _ s hlocked, Consultation.run_pure]
  exact ⟨_, rfl, rfl⟩

/-- Spelled with a plus sign and zeros, the number of the locked page is the same number. -/
theorem Reference.news_kept :
    parse "news: local:+007" = .ok ⟨"news: local", ⟨7⟩⟩ ∧
    (⟨"news: local", ⟨7⟩⟩ : Reference).resolve Policy.Board.policy = Policy.Board.news ∧
    ∀ s : Subject, ∃ d, ((Policy.Board.policy.environment.chain true).check s
        ((⟨"news: local", ⟨7⟩⟩ : Reference).resolve Policy.Board.policy) .delete).run
          (Policy.Board.policy.environment.collaborators.respondent : Respondent String) [] =
        (.ok d, []) ∧
      d.outcome = .forbidden := by
  obtain ⟨hgrammar, -, -, -, hpolicy⟩ := names_exact (ε := String)
  have hparse : parse "news: local:+007" = .ok ⟨"news: local", ⟨7⟩⟩ := by
    have hnumeral : Text.IsNumeral 7 ['+', '0', '0', '7'] :=
      .signed ⟨by simp, by simp, rfl, by decide⟩
    exact (hgrammar _ _).mpr ⟨"+007", rfl, by decide, by decide, hnumeral⟩
  have hvalid : Policy.Board.policy.faultAlong? Policy.Board.policy.roles.toList = none := by
    decide +kernel
  have hr : Policy.Board.news ∈ Policy.Board.policy.resources := by decide
  obtain ⟨-, hdeclared, -, hlocked⟩ := hpolicy _ _ .rfl hvalid _ _ hparse
  refine ⟨hparse, hdeclared _ hr rfl rfl, ?_⟩
  intro s
  exact hlocked _ hr rfl rfl rfl Policy.Board.policy.listing true s _

end AccessControl
