import AccessControl.Chain

/-!
# What building and joining do to a decision

A decision is made with its verdict and its reason, gets contexts and tags one at a time, and may be
joined with another one. The facts here read the verdict and the membership of a context or a tag off
each of these steps, so that no later proof looks into a decision.

The two joins differ. `withCacheFrom` keeps the verdict and `orElse` picks the stronger one, but
**both keep every context and every tag of either side** (`mem_contexts_join`, `mem_tags_join`): that
is why a decision of the whole chain can be cached although the second layer knows nothing of the
first. Which decisions are joined at all depends on their verdict alone: the others are *final*
(`isFinal_iff`).
-/

set_option autoImplicit false

namespace AccessControl.Decision

/-! ## Contexts -/

theorem grantsContext_ne_permissionsContext (op : Operation) :
    grantsContext op ≠ permissionsContext := by
  cases op <;> decide

theorem grantsContext_ne_subjectContext (op : Operation) :
    grantsContext op ≠ subjectContext := by
  cases op <;> decide

/-! ## Building -/

@[simp] theorem outcome_allowed (reason : String) : (allowed reason).outcome = .allowed := rfl

@[simp] theorem outcome_forbidden (reason : String) :
    (forbidden reason).outcome = .forbidden := rfl

@[simp] theorem outcome_neutral (reason : String) : (neutral reason).outcome = .neutral := rfl

@[simp] theorem contexts_allowed (reason : String) : (allowed reason).contexts = ∅ := rfl

@[simp] theorem contexts_forbidden (reason : String) : (forbidden reason).contexts = ∅ := rfl

@[simp] theorem contexts_neutral (reason : String) : (neutral reason).contexts = ∅ := rfl

@[simp] theorem tags_allowed (reason : String) : (allowed reason).tags = ∅ := rfl

@[simp] theorem tags_forbidden (reason : String) : (forbidden reason).tags = ∅ := rfl

@[simp] theorem tags_neutral (reason : String) : (neutral reason).tags = ∅ := rfl

@[simp] theorem outcome_withContext (d : Decision) (context : String) :
    (d.withContext context).outcome = d.outcome := rfl

@[simp] theorem tags_withContext (d : Decision) (context : String) :
    (d.withContext context).tags = d.tags := rfl

@[simp] theorem mem_contexts_withContext {d : Decision} {context c : String} :
    c ∈ (d.withContext context).contexts ↔ context = c ∨ c ∈ d.contexts := by
  rw [withContext, Std.ExtTreeSet.mem_insert, Std.LawfulEqCmp.compare_eq_iff_eq]

@[simp] theorem outcome_withTag (d : Decision) (tag : String) :
    (d.withTag tag).outcome = d.outcome := rfl

@[simp] theorem contexts_withTag (d : Decision) (tag : String) :
    (d.withTag tag).contexts = d.contexts := rfl

@[simp] theorem mem_tags_withTag {d : Decision} {tag t : String} :
    t ∈ (d.withTag tag).tags ↔ tag = t ∨ t ∈ d.tags := by
  rw [withTag, Std.ExtTreeSet.mem_insert, Std.LawfulEqCmp.compare_eq_iff_eq]

@[simp] theorem perPermissions_eq (d : Decision) :
    d.perPermissions = d.withContext permissionsContext := rfl

/-! ## Asking -/

@[simp] theorem isAllowed_iff {d : Decision} : d.isAllowed = true ↔ d.outcome = .allowed := by
  simp [isAllowed]

@[simp] theorem isForbidden_iff {d : Decision} :
    d.isForbidden = true ↔ d.outcome = .forbidden := by
  simp [isForbidden]

/-! ## Joining -/

@[simp] theorem outcome_withCacheFrom (d e : Decision) :
    (d.withCacheFrom e).outcome = d.outcome := rfl

@[simp] theorem mem_contexts_withCacheFrom {d e : Decision} {c : String} :
    c ∈ (d.withCacheFrom e).contexts ↔ c ∈ d.contexts ∨ c ∈ e.contexts := by
  show c ∈ d.contexts.union e.contexts ↔ _
  rw [Std.ExtTreeSet.union_eq, Std.ExtTreeSet.mem_union_iff]

@[simp] theorem mem_tags_withCacheFrom {d e : Decision} {t : String} :
    t ∈ (d.withCacheFrom e).tags ↔ t ∈ d.tags ∨ t ∈ e.tags := by
  show t ∈ d.tags.union e.tags ↔ _
  rw [Std.ExtTreeSet.union_eq, Std.ExtTreeSet.mem_union_iff]

/-- Whichever side wins, the other gives it its contexts and tags. -/
theorem orElse_eq_or (d e : Decision) :
    d.orElse e = d.withCacheFrom e ∨ d.orElse e = e.withCacheFrom d := by
  unfold orElse
  split
  · exact Or.inl rfl
  · exact Or.inr rfl
  · exact Or.inl rfl
  · exact Or.inr rfl
  · exact Or.inl rfl

/-- A neutral second opinion changes no verdict. -/
theorem outcome_orElse_of_neutral {d e : Decision} (he : e.outcome = .neutral) :
    (d.orElse e).outcome = d.outcome := by
  unfold orElse
  rw [he]
  cases hd : d.outcome <;> exact hd

@[simp] theorem mem_contexts_orElse {d e : Decision} {c : String} :
    c ∈ (d.orElse e).contexts ↔ c ∈ d.contexts ∨ c ∈ e.contexts := by
  rcases orElse_eq_or d e with h | h
  · rw [h, mem_contexts_withCacheFrom]
  · rw [h, mem_contexts_withCacheFrom, or_comm]

@[simp] theorem mem_tags_orElse {d e : Decision} {t : String} :
    t ∈ (d.orElse e).tags ↔ t ∈ d.tags ∨ t ∈ e.tags := by
  rcases orElse_eq_or d e with h | h
  · rw [h, mem_tags_withCacheFrom]
  · rw [h, mem_tags_withCacheFrom, or_comm]

end AccessControl.Decision

/-! ## Final decisions -/

namespace AccessControl.Chain

open Decision

variable {d e : Decision} {r : Resource} {op : Operation}

theorem isFinal_iff : isFinal d r op = true ↔
    d.outcome = .allowed ∨ (d.outcome = .forbidden ∧ isOverridable r op = false) := by
  simp [isFinal]

/-- The lock and views are all that role permissions may not overturn. -/
theorem isOverridable_of_change (hop : op ≠ .view) (hopen : op = .delete → r.locked = false) :
    isOverridable r op = true := by
  cases op with
  | view => exact absurd rfl hop
  | delete => simp [isOverridable, hopen rfl]
  | update | create => rfl

theorem isFinal_iff_of_change (hop : op ≠ .view) (hopen : op = .delete → r.locked = false) :
    isFinal d r op = true ↔ d.outcome = .allowed := by
  rw [isFinal_iff, isOverridable_of_change hop hopen]
  simp

/-! ## Joining the layers -/

theorem outcome_join_of_allowed (he : e.outcome = .allowed) :
    (join d e).outcome = .allowed := by
  unfold join
  rw [if_pos (isAllowed_iff.mpr he)]
  exact he

theorem outcome_join_of_neutral (he : e.outcome = .neutral) :
    (join d e).outcome = d.outcome := by
  unfold join
  rw [if_neg (by rw [isAllowed_iff, he]; simp)]
  exact outcome_orElse_of_neutral he

@[simp] theorem mem_contexts_join {c : String} :
    c ∈ (join d e).contexts ↔ c ∈ d.contexts ∨ c ∈ e.contexts := by
  unfold join
  split
  · rw [mem_contexts_withCacheFrom, or_comm]
  · rw [mem_contexts_orElse]

@[simp] theorem mem_tags_join {t : String} :
    t ∈ (join d e).tags ↔ t ∈ d.tags ∨ t ∈ e.tags := by
  unfold join
  split
  · rw [mem_tags_withCacheFrom, or_comm]
  · rw [mem_tags_orElse]

end AccessControl.Chain
