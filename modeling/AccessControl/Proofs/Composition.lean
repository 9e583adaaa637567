import AccessControl.Proofs.Answering
import AccessControl.Proofs.Metadata
import AccessControl.Proofs.Rulings

/-!
# How the chain is composed

The chain has two ways of joining a decision of the resolver with one of the stock permissions, and
a test in front of them that may skip the second layer altogether. **From outside they are one rule**
(`Chain.join_eq`): the stock permissions never refuse, so either they allow, and verdict and reason
are theirs, or they leave both to the resolver; and whoever wins, contexts and tags are those of the
two together.

What contexts and tags there can be is then a matter of each layer by itself. A decision names no
resource but the one it is about, and the subject only where ownership has been looked at.
-/

set_option autoImplicit false

namespace AccessControl

variable {k : Collaborators} {c : Chain} {rules : BundleRules} {s : Subject} {r : Resource}
  {op : Operation} {d e : Decision} {x t : String}

/-! ## What each layer records -/

namespace Resolver

theorem Ruling.eq_cacheTag (h : Ruling k rules s r op d) (ht : t ∈ d.tags) : t = r.cacheTag := by
  cases h with
  | locked _ | noGrants _ _ _ | notCovered _ _ _ => simpa [eq_comm] using ht
  | granted _ _ _ _ | refused _ _ _ _ _ => simpa [byGrants, eq_comm] using ht
  | admin _ _ _ | viewHeld _ _ | viewMissing _ _ | noRules _ _ => simp at ht

theorem Ruling.eq_context (h : Ruling k rules s r op d) (hx : x ∈ d.contexts) :
    x = Decision.permissionsContext ∨ x = Decision.grantsContext op := by
  cases h with
  | locked _ | noGrants _ _ _ | notCovered _ _ _ | noRules _ _ => simp at hx
  | granted _ _ _ _ | refused _ _ _ _ _ => exact Or.inr (by simpa [byGrants, eq_comm] using hx)
  | admin _ _ _ | viewHeld _ _ | viewMissing _ _ => exact Or.inl (by simpa [eq_comm] using hx)

/-- The resolver does not look at who the subject is. -/
theorem Ruling.subjectContext_not_mem (h : Ruling k rules s r op d) :
    Decision.subjectContext ∉ d.contexts := by
  intro hx
  rcases h.eq_context hx with hpermissions | hgrants
  · exact absurd hpermissions (by decide)
  · exact Decision.grantsContext_ne_subjectContext op hgrants.symm

end Resolver

namespace StockPermissions

/-- There are permissions for owners to update and to delete. -/
theorem ownPermission?_isSome_iff (bundle : String) :
    (ownPermission? bundle op).isSome = true ↔ op = .update ∨ op = .delete := by
  cases op <;> simp [ownPermission?]

theorem Ruling.outcome_ne_forbidden (h : Ruling k s r op e) : e.outcome ≠ .forbidden := by
  cases h with
  | any _ | lacksAny _ _ | owner _ _ _ _ | lacksBoth _ _ _ => exact nofun

theorem Ruling.eq_cacheTag (h : Ruling k s r op e) (ht : t ∈ e.tags) : t = r.cacheTag := by
  cases h with
  | any _ | lacksAny _ _ => simp at ht
  | owner _ _ _ _ | lacksBoth _ _ _ => simpa [eq_comm] using ht

theorem Ruling.eq_context (h : Ruling k s r op e) (hx : x ∈ e.contexts) :
    x = Decision.permissionsContext ∨ x = Decision.subjectContext := by
  cases h with
  | any _ | lacksAny _ _ => exact Or.inl (by simpa [eq_comm] using hx)
  | owner _ _ _ _ | lacksBoth _ _ _ => simpa [eq_comm, or_comm] using hx

/-- The layer looks at who the subject is where owners have a permission and the one for the whole
bundle is not held. -/
theorem Ruling.subjectContext_mem_iff (h : Ruling k s r op e) :
    Decision.subjectContext ∈ e.contexts ↔
      (op = .update ∨ op = .delete) ∧ k.holds s.roles (anyPermission r.bundle op) = false := by
  have hne : Decision.permissionsContext ≠ Decision.subjectContext := by decide
  rw [← ownPermission?_isSome_iff r.bundle]
  cases h with
  | any hany => simp [hany, hne]
  | lacksAny hany hown => simp [hown, hne]
  | owner hany hown _ _ | lacksBoth hany hown _ => simp [hany, hown]

end StockPermissions

/-! ## The two layers together -/

namespace Chain

/-- A decision of the resolver that is not taken further: access is given, a view is refused, or the
deletion of a locked resource is. -/
def Stands (d : Decision) (r : Resource) (op : Operation) : Prop :=
  d.outcome = .allowed ∨
    d.outcome = .forbidden ∧ (op = .view ∨ op = .delete ∧ r.locked = true)

theorem isFinal_iff_stands : isFinal d r op = true ↔ Stands d r op := by
  rw [isFinal_iff, Stands]
  cases op <;> simp [isOverridable]

theorem contexts_join : (join d e).contexts = d.contexts ∪ e.contexts := by
  apply Std.ExtTreeSet.ext_mem
  intro x
  rw [mem_contexts_join, Std.ExtTreeSet.mem_union_iff]

theorem tags_join : (join d e).tags = d.tags ∪ e.tags := by
  apply Std.ExtTreeSet.ext_mem
  intro t
  rw [mem_tags_join, Std.ExtTreeSet.mem_union_iff]

/-- A second opinion that does not refuse takes verdict and reason over if it allows, and leaves them
alone if it does not. -/
theorem verdict_join (he : e.outcome ≠ .forbidden) :
    (join d e).outcome = (if e.outcome = .allowed then e else d).outcome ∧
      (join d e).reason = (if e.outcome = .allowed then e else d).reason := by
  unfold join
  by_cases hallowed : e.outcome = .allowed
  · rw [if_pos (Decision.isAllowed_iff.mpr hallowed), if_pos hallowed]
    exact ⟨rfl, rfl⟩
  · have hneutral : e.outcome = .neutral := by
      cases h : e.outcome with
      | allowed => exact absurd h hallowed
      | forbidden => exact absurd h he
      | neutral => rfl
    have hwins : d.orElse e = d.withCacheFrom e := by
      unfold Decision.orElse
      rw [hneutral]
      cases d.outcome with
      | allowed | forbidden | neutral => rfl
    rw [if_neg fun h => hallowed (Decision.isAllowed_iff.mp h), if_neg hallowed, hwins]
    exact ⟨rfl, rfl⟩

/-- **The two ways of joining are one.** -/
theorem join_eq (he : e.outcome ≠ .forbidden) :
    join d e =
      { outcome := (if e.outcome = .allowed then e else d).outcome
        reason := (if e.outcome = .allowed then e else d).reason
        contexts := d.contexts ∪ e.contexts
        tags := d.tags ∪ e.tags } := by
  obtain ⟨houtcome, hreason⟩ := verdict_join (d := d) he
  rw [← houtcome, ← hreason, ← contexts_join, ← tags_join]

theorem Ruling.eq_cacheTag (h : Ruling k c s r op d) (ht : t ∈ d.tags) : t = r.cacheTag := by
  cases h with
  | alone hd _ => exact hd.eq_cacheTag ht
  | joined hd _ _ he =>
    rcases mem_tags_join.mp ht with ht | ht
    · exact hd.eq_cacheTag ht
    · exact he.eq_cacheTag ht

theorem Ruling.eq_context (h : Ruling k c s r op d) (hx : x ∈ d.contexts) :
    x = Decision.permissionsContext ∨ x = Decision.subjectContext ∨
      x = Decision.grantsContext op := by
  cases h with
  | alone hd _ => exact (hd.eq_context hx).imp_right Or.inr
  | joined hd _ _ he =>
    rcases mem_contexts_join.mp hx with hx | hx
    · exact (hd.eq_context hx).imp_right Or.inr
    · exact (he.eq_context hx).imp_right Or.inl

/-- **The chain from its two layers.** When nobody fails, resolver, stock permissions and chain each
come to a decision. That of the resolver stands if it gives access, refuses a view, or refuses the
deletion of a locked resource. Otherwise verdict and reason are those of the stock permissions if
these give access and those of the resolver if not, and contexts and tags are those of both.

In either case the only tag there can be is that of the resource, and the only contexts are the
permissions, the subject, and the grants for the operation asked for. The subject is one of them
exactly if an update or a deletion has gone on to the stock permissions without the permission for
the whole bundle. -/
theorem check_composed {ε : Type} (k : Collaborators) (bundles : BundleMap) (s : Subject)
    (r : Resource) (op : Operation) (past : List Question) :
    ∃ first second final : Decision,
      ((Resolver.resolve bundles s r op).run (k.respondent : Respondent ε) past).1 = .ok first ∧
      ((StockPermissions.check s r op).run (k.respondent : Respondent ε) past).1 = .ok second ∧
      ((({ bundles, stock := true } : Chain).check s r op).run
        (k.respondent : Respondent ε) past).1 = .ok final ∧
      (Stands first r op ∧ final = first ∨
        ¬ Stands first r op ∧ final =
          { outcome := (if second.outcome = .allowed then second else first).outcome
            reason := (if second.outcome = .allowed then second else first).reason
            contexts := first.contexts ∪ second.contexts
            tags := first.tags ∪ second.tags }) ∧
      (∀ t ∈ final.tags, t = r.cacheTag) ∧
      (∀ x ∈ final.contexts, x = Decision.permissionsContext ∨ x = Decision.subjectContext ∨
        x = Decision.grantsContext op) ∧
      (Decision.subjectContext ∈ final.contexts ↔
        (op = .update ∨ op = .delete) ∧ ¬ Stands first r op ∧
          k.holds s.roles (StockPermissions.anyPermission r.bundle op) = false) := by
  have hd := Resolver.ruling_eval k bundles s r op
  have he := StockPermissions.ruling_eval k s r op
  have hfinal := ruling_eval k { bundles, stock := true } s r op
  refine ⟨_, _, _, Consultation.run_respondent k past _, Consultation.run_respondent k past _,
    Consultation.run_respondent k past _, ?_, fun t ht => hfinal.eq_cacheTag ht,
    fun x hx => hfinal.eq_context hx, ?_⟩
  · by_cases hstands : Stands ((Resolver.resolve bundles s r op).eval k) r op
    · exact Or.inl ⟨hstands, eval_of_final hd (isFinal_iff_stands.mpr hstands)⟩
    · have hopen : isFinal ((Resolver.resolve bundles s r op).eval k) r op = false := by
        rwa [← Bool.not_eq_true, isFinal_iff_stands]
      refine Or.inr ⟨hstands, ?_⟩
      rw [Ruling.eval_eq (.joined hd rfl hopen he), join_eq he.outcome_ne_forbidden]
  · by_cases hstands : Stands ((Resolver.resolve bundles s r op).eval k) r op
    · rw [eval_of_final hd (isFinal_iff_stands.mpr hstands)]
      refine iff_of_false hd.subjectContext_not_mem ?_
      rintro ⟨-, hnot, -⟩
      exact hnot hstands
    · have hopen : isFinal ((Resolver.resolve bundles s r op).eval k) r op = false := by
        rwa [← Bool.not_eq_true, isFinal_iff_stands]
      rw [Ruling.eval_eq (.joined hd rfl hopen he), mem_contexts_join, he.subjectContext_mem_iff]
      simp [hd.subjectContext_not_mem, hstands]

end Chain

end AccessControl
