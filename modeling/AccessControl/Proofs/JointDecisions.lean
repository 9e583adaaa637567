import AccessControl.Proofs.Metadata

/-!
# What many decisions come to

`Decision.orElse` joins two decisions, and it does so by a match of five arms that overlap. Where
more than two authorities are asked, somebody has to say in which order the joins are made, and
nobody should have to: which verdict wins, for which reason, and what a cache must know of it depend
on **the list of the decisions and not on the brackets**.

The verdicts are a chain, neutral below allowed below forbidden (`Outcome.strength`), and a join
takes the right side only if that one is strictly stronger (`Decision.orElse_eq_ite`). What a list
comes to is said without any join in `Joint`: the strongest verdict, the reason of the *first* that
has it, and all contexts and tags. A list comes to one thing at most (`Joint.unique`), one decision
comes to itself, and what two lists come to can be joined (`Joint.orElse`). The last is the only
place where the arms matter; the rest is one induction over the brackets.
-/

set_option autoImplicit false

namespace AccessControl

/-! ## The chain of verdicts -/

/-- How much it takes to stand against a verdict. -/
def Outcome.strength : Outcome → Nat
  | .neutral => 0
  | .allowed => 1
  | .forbidden => 2

theorem Outcome.strength_injective {a b : Outcome} (h : a.strength = b.strength) : a = b := by
  cases a <;> cases b <;> simp [strength] at h <;> rfl

namespace Decision

variable {a b c d e : Decision} {ds es : List Decision}

/-- Of two decisions the left one stays, unless the right one is stronger. -/
theorem orElse_eq_ite (d e : Decision) :
    d.orElse e =
      if d.outcome.strength < e.outcome.strength then e.withCacheFrom d else d.withCacheFrom e := by
  unfold orElse
  cases hd : d.outcome <;> cases he : e.outcome <;> simp [Outcome.strength]

/-! ## What a list of decisions comes to -/

/-- What decisions come to together, whoever joins them and in whatever order of joins. -/
structure Joint (ds : List Decision) (joint : Decision) : Prop where
  strongest : ∀ d ∈ ds, d.outcome.strength ≤ joint.outcome.strength
  /-- The first with the verdict gives the reason, so there is one with the verdict. -/
  reason : (ds.find? fun d => d.outcome = joint.outcome).map Decision.reason = some joint.reason
  contexts : ∀ x, x ∈ joint.contexts ↔ ∃ d ∈ ds, x ∈ d.contexts
  tags : ∀ t, t ∈ joint.tags ↔ ∃ d ∈ ds, t ∈ d.tags

theorem Joint.attained (h : Joint ds d) : ∃ first ∈ ds, first.outcome = d.outcome := by
  obtain ⟨first, hfirst, -⟩ := Option.map_eq_some_iff.mp h.reason
  exact ⟨first, List.mem_of_find?_eq_some hfirst, by simpa using List.find?_some hfirst⟩

theorem Joint.single (d : Decision) : Joint [d] d where
  strongest := by simp
  reason := by simp
  contexts := by simp
  tags := by simp

/-- Further decisions take no context or tag away and make no verdict weaker. -/
theorem Joint.mono (h : Joint ds d) (h' : Joint es e) (hsub : ∀ x ∈ ds, x ∈ es) :
    (∀ x ∈ d.contexts, x ∈ e.contexts) ∧ (∀ t ∈ d.tags, t ∈ e.tags) ∧
      d.outcome.strength ≤ e.outcome.strength := by
  refine ⟨?_, ?_, ?_⟩
  · intro x hx
    obtain ⟨y, hy, hxy⟩ := (h.contexts x).mp hx
    exact (h'.contexts x).mpr ⟨y, hsub y hy, hxy⟩
  · intro t ht
    obtain ⟨y, hy, hty⟩ := (h.tags t).mp ht
    exact (h'.tags t).mpr ⟨y, hsub y hy, hty⟩
  · obtain ⟨first, hfirst, houtcome⟩ := h.attained
    rw [← houtcome]
    exact h'.strongest first (hsub first hfirst)

/-- Of the same decisions in another order, or repeated, nothing but the reason can be another. -/
theorem Joint.eq_but_reason (h : Joint ds d) (h' : Joint es e) (hmem : ∀ x, x ∈ ds ↔ x ∈ es) :
    e = { d with reason := e.reason } := by
  obtain ⟨hcontexts, htags, hle⟩ := h.mono h' fun x => (hmem x).mp
  obtain ⟨hcontexts', htags', hge⟩ := h'.mono h fun x => (hmem x).mpr
  have houtcome : e.outcome = d.outcome := Outcome.strength_injective (Nat.le_antisymm hge hle)
  have hsame : e.contexts = d.contexts :=
    Std.ExtTreeSet.ext_mem fun x => ⟨hcontexts' x, hcontexts x⟩
  have hsame' : e.tags = d.tags := Std.ExtTreeSet.ext_mem fun t => ⟨htags' t, htags t⟩
  rw [← houtcome, ← hsame, ← hsame']

theorem Joint.unique (h : Joint ds d) (h' : Joint ds e) : e = d := by
  have hsame := h.eq_but_reason h' fun _ => Iff.rfl
  have houtcome : e.outcome = d.outcome := by rw [hsame]
  have hreason : e.reason = d.reason := by
    have he := h'.reason
    rw [houtcome, h.reason] at he
    exact (Option.some.inj he).symm
  rw [hsame, hreason]

/-- The reason where the verdict is that of the right side: nobody on the left has it. -/
theorem find?_append_of_weaker {joint : Decision} (hweaker : ∀ d ∈ ds, d.outcome ≠ joint.outcome) :
    ((ds ++ es).find? fun d => d.outcome = joint.outcome) =
      es.find? fun d => d.outcome = joint.outcome := by
  have hnone : (ds.find? fun d => d.outcome = joint.outcome) = none := by
    rw [List.find?_eq_none]
    intro d hd
    simpa using hweaker d hd
  rw [List.find?_append, hnone, Option.none_or]

/-- **What two lists come to, joined, is what the longer list comes to.** -/
theorem Joint.orElse (h : Joint ds d) (h' : Joint es e) : Joint (ds ++ es) (d.orElse e) := by
  have hcontexts : ∀ x, x ∈ (d.orElse e).contexts ↔ ∃ y ∈ ds ++ es, x ∈ y.contexts := by
    intro x
    simp only [mem_contexts_orElse, h.contexts, h'.contexts, List.mem_append, or_and_right,
      exists_or]
  have htags : ∀ t, t ∈ (d.orElse e).tags ↔ ∃ y ∈ ds ++ es, t ∈ y.tags := by
    intro t
    simp only [mem_tags_orElse, h.tags, h'.tags, List.mem_append, or_and_right, exists_or]
  rw [orElse_eq_ite] at hcontexts htags ⊢
  by_cases hlt : d.outcome.strength < e.outcome.strength
  · rw [if_pos hlt] at hcontexts htags ⊢
    refine ⟨?_, ?_, hcontexts, htags⟩
    · intro x hx
      rcases List.mem_append.mp hx with hx | hx
      · exact Nat.le_of_lt (Nat.lt_of_le_of_lt (h.strongest x hx) hlt)
      · exact h'.strongest x hx
    · rw [find?_append_of_weaker]
      · exact h'.reason
      · intro x hx hsame
        have hle := h.strongest x hx
        rw [hsame] at hle
        exact absurd hlt (Nat.not_lt.mpr hle)
  · rw [if_neg hlt] at hcontexts htags ⊢
    refine ⟨?_, ?_, hcontexts, htags⟩
    · intro x hx
      rcases List.mem_append.mp hx with hx | hx
      · exact h.strongest x hx
      · exact Nat.le_trans (h'.strongest x hx) (Nat.not_lt.mp hlt)
    · -- The left list has the verdict, so its first is the first of all.
      obtain ⟨first, hfirst, hreason⟩ := Option.map_eq_some_iff.mp h.reason
      show ((ds ++ es).find? fun x => x.outcome = d.outcome).map Decision.reason = some d.reason
      rw [List.find?_append, hfirst, Option.some_or, Option.map_some, hreason]

/-- Decisions joined one after the other. -/
theorem Joint.foldl (h : Joint ds d) (rest : List Decision) :
    Joint (ds ++ rest) (rest.foldl Decision.orElse d) := by
  induction rest generalizing ds d with
  | nil => rwa [List.append_nil]
  | cons e rest ih =>
    rw [List.append_cons]
    exact ih (h.orElse (.single e))

end Decision

/-! ## Brackets -/

/-- A way of joining decisions, two at a time. -/
inductive Bracketing where
  | one (d : Decision)
  | pair (left right : Bracketing)

namespace Bracketing

/-- The decisions, from left to right. -/
def decisions : Bracketing → List Decision
  | one d => [d]
  | pair left right => left.decisions ++ right.decisions

/-- The decision that they are joined to. -/
def joined : Bracketing → Decision
  | one d => d
  | pair left right => left.joined.orElse right.joined

theorem joint (t : Bracketing) : Decision.Joint t.decisions t.joined := by
  induction t with
  | one d => exact .single d
  | pair left right ihl ihr => exact ihl.orElse ihr

end Bracketing

namespace Decision

variable {a b c d : Decision} {ds : List Decision}

theorem Joint.outcome_eq (h : Joint ds d) :
    d.outcome =
      if ∃ x ∈ ds, x.outcome = .forbidden then .forbidden
      else if ∃ x ∈ ds, x.outcome = .allowed then .allowed
      else .neutral := by
  obtain ⟨first, hfirst, houtcome⟩ := h.attained
  split
  · rename_i hsome
    obtain ⟨x, hx, hforbidden⟩ := hsome
    have hle := h.strongest x hx
    rw [hforbidden] at hle
    cases hd : d.outcome <;> simp [hd, Outcome.strength] at hle ⊢
  · rename_i hnone
    have hne : d.outcome ≠ .forbidden := fun hd => hnone ⟨first, hfirst, houtcome.trans hd⟩
    split
    · rename_i hsome
      obtain ⟨x, hx, hallowed⟩ := hsome
      have hle := h.strongest x hx
      rw [hallowed] at hle
      cases hd : d.outcome <;> simp [hd, Outcome.strength] at hle hne ⊢
    · rename_i hnone'
      have hne' : d.outcome ≠ .allowed := fun hd => hnone' ⟨first, hfirst, houtcome.trans hd⟩
      cases hd : d.outcome <;> simp [hd] at hne hne' ⊢

theorem orElse_assoc (a b c : Decision) : (a.orElse b).orElse c = a.orElse (b.orElse c) :=
  Joint.unique (Bracketing.joint (.pair (.one a) (.pair (.one b) (.one c))))
    (Bracketing.joint (.pair (.pair (.one a) (.one b)) (.one c)))

theorem orElse_self (a : Decision) : a.orElse a = a := by
  have htwice : Joint [a, a] a := ⟨by simp, by simp, by simp, by simp⟩
  exact htwice.unique (Joint.orElse (.single a) (.single a))

theorem orElse_swap (a b : Decision) :
    b.orElse a = { a.orElse b with reason := (b.orElse a).reason } := by
  refine Joint.eq_but_reason (Joint.orElse (.single a) (.single b))
    (Joint.orElse (.single b) (.single a)) ?_
  intro x
  simp [or_comm]

/-- **The joint decision of any number of authorities.** However the decisions of a list are
bracketed, they come to what they come to when they are joined one after the other, and

* it forbids if one of them forbids, otherwise it allows if one of them allows, and otherwise it is
  neutral;
* its reason is that of the first with its verdict;
* its contexts and its tags are those of all of them;
* what further decisions are added, and wherever, no context and no tag is lost, and a refusal stays
  one.

Two decisions can be joined in either order but for the reason, and joining one with itself changes
nothing. -/
theorem joint_exact (first : Decision) (rest : List Decision) :
    (∀ t : Bracketing, t.decisions = first :: rest →
      t.joined = rest.foldl Decision.orElse first) ∧
    (rest.foldl Decision.orElse first).outcome =
      (if ∃ d ∈ first :: rest, d.outcome = .forbidden then .forbidden
        else if ∃ d ∈ first :: rest, d.outcome = .allowed then .allowed
        else .neutral) ∧
    ((first :: rest).find? fun d =>
        d.outcome = (rest.foldl Decision.orElse first).outcome).map Decision.reason =
      some (rest.foldl Decision.orElse first).reason ∧
    (∀ x, x ∈ (rest.foldl Decision.orElse first).contexts ↔
      ∃ d ∈ first :: rest, x ∈ d.contexts) ∧
    (∀ x, x ∈ (rest.foldl Decision.orElse first).tags ↔ ∃ d ∈ first :: rest, x ∈ d.tags) ∧
    (∀ t : Bracketing, (∀ d ∈ first :: rest, d ∈ t.decisions) →
      (∀ x ∈ (rest.foldl Decision.orElse first).contexts, x ∈ t.joined.contexts) ∧
      (∀ x ∈ (rest.foldl Decision.orElse first).tags, x ∈ t.joined.tags) ∧
      ((rest.foldl Decision.orElse first).outcome = .forbidden →
        t.joined.outcome = .forbidden)) ∧
    (∀ a b c : Decision, (a.orElse b).orElse c = a.orElse (b.orElse c)) ∧
    (∀ a : Decision, a.orElse a = a) ∧
    (∀ a b : Decision, b.orElse a = { a.orElse b with reason := (b.orElse a).reason }) := by
  have h : Joint (first :: rest) (rest.foldl Decision.orElse first) :=
    Joint.foldl (.single first) rest
  refine ⟨?_, h.outcome_eq, h.reason, h.contexts, h.tags, ?_, orElse_assoc, orElse_self,
    orElse_swap⟩
  · intro t ht
    have htree := t.joint
    rw [ht] at htree
    exact h.unique htree
  · intro t hsub
    obtain ⟨hcontexts, htags, hle⟩ := h.mono t.joint hsub
    refine ⟨hcontexts, htags, ?_⟩
    intro hforbidden
    rw [hforbidden] at hle
    cases ht : t.joined.outcome <;> simp [ht, Outcome.strength] at hle ⊢

/-! ### Five authorities

Two refuse and one allows, and they are heard in two pairs with the allowing one between them. -/

namespace Panel

def silent : Decision := (neutral "no opinion").withContext "user"

def refusal : Decision := (forbidden "closed").withTag "article:7"

def approval : Decision := (allowed "editor").perPermissions

def objection : Decision := (forbidden "embargo").withTag "article:8"

def pairs : Bracketing :=
  .pair (.pair (.one silent) (.one refusal)) (.pair (.one approval)
    (.pair (.one objection) (.one silent)))

end Panel

/-- The reason is that of the first refusal, and the tag of the other one is not lost. -/
theorem joined_pairs :
    Panel.pairs.decisions =
      [Panel.silent, Panel.refusal, Panel.approval, Panel.objection, Panel.silent] ∧
    Panel.pairs.joined.outcome = .forbidden ∧ Panel.pairs.joined.reason = "closed" ∧
    "article:8" ∈ Panel.pairs.joined.tags := by
  obtain ⟨hbrackets, houtcome, -, -, htags, -⟩ := joint_exact Panel.silent
    [Panel.refusal, Panel.approval, Panel.objection, Panel.silent]
  rw [hbrackets Panel.pairs rfl]
  refine ⟨rfl, houtcome, rfl, ?_⟩
  exact (htags "article:8").mpr ⟨Panel.objection, by simp, by simp [Panel.objection]⟩

end Decision

end AccessControl
