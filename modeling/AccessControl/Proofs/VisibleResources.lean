import AccessControl.Proofs.Answering
import AccessControl.Proofs.CacheContexts

/-!
# The resources that a subject sees

What a subject may view of a list is found by one check after the other. A check may fail, and those
who respond may look at all that was asked before, so the outcome of the second check can hang on
how the first one went. `Chain.turns` lists what would come of the checks if each of them was made
where the one before left off, **failed or not**. What is listed for the subject is then read off
the turns up to the first failure: if there is none, the resources of those that allow the view
(`run_visible_of_ok`), and otherwise the failure and nothing else, with nothing asked after it
(`run_visible_of_refused`).

Those who respond to a question in the same way whenever it is put are the ordinary case. To them a
check is the same wherever in the list it stands (`Consultation.run_steady`), the turns are the
checks of the resources one by one (`result_of_mem_turns`), and the order of the list decides about
the failure only. A shorter list may lose it, so restricting the list first and restricting what is
visible agree **when no check of the longer list fails**.
-/

set_option autoImplicit false

namespace AccessControl

variable {ε : Type} {respond : Respondent ε} {answers : (q : Question) → Except ε q.Answer}
  {past : List Question} {c : Chain} {s : Subject} {r : Resource} {xs ys rest : List Resource}

namespace Chain

/-! ## Turns -/

/-- The check of a view in a row of them. -/
structure Turn (ε : Type) where
  resource : Resource
  result : Except ε Decision
  /-- All questions asked up to the end of the check. -/
  asked : List Question

/-- Whether the view is allowed, which it is not if the check failed. -/
def allows : Except ε Decision → Bool
  | .ok d => d.isAllowed
  | .error _ => false

@[simp] theorem allows_ok (d : Decision) : allows (.ok d : Except ε Decision) = d.isAllowed := rfl

/-- The checks of some views, one after the other, each made where the one before left off. -/
def turns (c : Chain) (s : Subject) (respond : Respondent ε) :
    List Question → List Resource → List (Turn ε)
  | _, [] => []
  | past, r :: rest =>
    let turn := (c.check s r .view).run respond past
    { resource := r, result := turn.1, asked := turn.2 } :: c.turns s respond turn.2 rest

theorem map_resource_turns (c : Chain) (s : Subject) (respond : Respondent ε)
    (past : List Question) (xs : List Resource) :
    (c.turns s respond past xs).map Turn.resource = xs := by
  induction xs generalizing past with
  | nil => rfl
  | cons r rest ih => rw [turns, List.map_cons, ih]

theorem run_visible_cons :
    (c.visible s (r :: rest)).run respond past =
      match (c.check s r .view).run respond past with
      | (.error e, log) => (.error e, log)
      | (.ok d, log) =>
        match (c.visible s rest).run respond log with
        | (.error e, log) => (.error e, log)
        | (.ok others, log) => (.ok (if d.isAllowed then r :: others else others), log) := by
  rw [visible, Consultation.run_bind]
  rcases (c.check s r .view).run respond past with ⟨d | e, log⟩
  · rfl
  · simp only [Consultation.run_bind]
    rcases (c.visible s rest).run respond log with ⟨others | e, log⟩
    · rfl
    · rfl

/-- **When no check fails** the resources are listed whose turn allows the view. -/
theorem run_visible_of_ok (h : ∀ t ∈ c.turns s respond past xs, ∃ d, t.result = .ok d) :
    ((c.visible s xs).run respond past).1 =
      .ok (((c.turns s respond past xs).filter fun t => allows t.result).map Turn.resource) := by
  induction xs generalizing past with
  | nil => rfl
  | cons r rest ih =>
    simp only [turns, List.forall_mem_cons] at h ⊢
    obtain ⟨⟨d, hd⟩, hrest⟩ := h
    have htail := ih hrest
    rw [run_visible_cons]
    rcases hturn : (c.check s r .view).run respond past with ⟨result, log⟩
    rw [hturn] at hd htail
    subst hd
    rcases hothers : (c.visible s rest).run respond log with ⟨others, log'⟩
    rw [hothers] at htail
    subst htail
    cases hallowed : d.isAllowed <;> simp [hothers, hallowed]

/-- **The first failure is the outcome**, and there nothing more is asked. -/
theorem run_visible_of_refused {before after : List (Turn ε)} {t : Turn ε} {e : ε}
    (h : c.turns s respond past xs = before ++ t :: after)
    (hbefore : ∀ b ∈ before, ∃ d, b.result = .ok d) (ht : t.result = .error e) :
    (c.visible s xs).run respond past = (.error e, t.asked) := by
  induction xs generalizing past before with
  | nil => simp [turns] at h
  | cons r rest ih =>
    rw [run_visible_cons]
    rcases hturn : (c.check s r .view).run respond past with ⟨result, log⟩
    simp only [turns, hturn] at h
    cases before with
    | nil =>
      rw [List.nil_append, List.cons.injEq] at h
      obtain ⟨rfl, -⟩ := h
      subst ht
      rfl
    | cons b before =>
      rw [List.cons_append, List.cons.injEq] at h
      rw [List.forall_mem_cons] at hbefore
      obtain ⟨rfl, hrest⟩ := h
      obtain ⟨⟨d, rfl⟩, hbefore⟩ := hbefore
      simp only [ih hrest hbefore]

theorem exists_first_refused (h : ¬ ∀ t ∈ c.turns s respond past xs, ∃ d, t.result = .ok d) :
    ∃ before t after e, c.turns s respond past xs = before ++ t :: after ∧
      (∀ b ∈ before, ∃ d, b.result = .ok d) ∧ t.result = .error e := by
  have hok : ∀ t : Turn ε, t.result.isOk = true ↔ ∃ d, t.result = .ok d := by
    intro t
    cases t.result <;> simp [Except.isOk, Except.toBool]
  cases hfirst : (c.turns s respond past xs).find? fun t => !t.result.isOk with
  | none =>
    refine absurd ?_ h
    intro t ht
    have hnot := List.find?_eq_none.mp hfirst t ht
    exact (hok t).mp (by simpa using hnot)
  | some t =>
    obtain ⟨hnot, before, after, hsplit, hbefore⟩ := List.find?_eq_some_iff_append.mp hfirst
    cases hresult : t.result with
    | ok d => simp [hresult, Except.isOk, Except.toBool] at hnot
    | error e =>
      refine ⟨before, t, after, e, hsplit, ?_, hresult⟩
      intro b hb
      exact (hok b).mp (by simpa using hbefore b hb)

/-- What is listed of two lists one after the other is found one list after the other. -/
theorem visible_append (c : Chain) (s : Subject) (xs ys : List Resource) :
    c.visible s (xs ++ ys) =
      c.visible s xs >>= fun first => c.visible s ys >>= fun second => pure (first ++ second) := by
  induction xs with
  | nil => simp [visible]
  | cons r rest ih =>
    simp only [List.cons_append, visible, ih, bind_assoc, pure_bind]
    congr
    funext d
    cases d.isAllowed <;> simp

/-! ## Responding always alike -/

/-- The check of a view by itself. -/
def viewing (c : Chain) (s : Subject) (answers : (q : Question) → Except ε q.Answer)
    (r : Resource) : Except ε Decision × List Question :=
  (c.check s r .view).run (fun _ => answers) []

theorem result_of_mem_turns {t : Turn ε} (ht : t ∈ c.turns s (fun _ => answers) past xs) :
    t.result = (c.viewing s answers t.resource).1 := by
  induction xs generalizing past with
  | nil => simp [turns] at ht
  | cons r rest ih =>
    simp only [turns, List.mem_cons] at ht
    rcases ht with rfl | ht
    · rw [viewing, Consultation.run_steady]
    · exact ih ht

theorem asked_of_turns_eq {before after : List (Turn ε)} {t : Turn ε}
    (h : c.turns s (fun _ => answers) past xs = before ++ t :: after) :
    t.asked = past ++ (before.map Turn.resource ++ [t.resource]).flatMap fun r =>
      (c.viewing s answers r).2 := by
  induction xs generalizing past before with
  | nil => simp [turns] at h
  | cons r rest ih =>
    simp only [turns] at h
    rw [Consultation.run_steady] at h
    cases before with
    | nil =>
      rw [List.nil_append, List.cons.injEq] at h
      obtain ⟨rfl, -⟩ := h
      simp [viewing]
    | cons b before =>
      rw [List.cons_append, List.cons.injEq] at h
      obtain ⟨rfl, hrest⟩ := h
      rw [ih hrest]
      simp [viewing]

theorem forall_turns_iff :
    (∀ t ∈ c.turns s (fun _ => answers) past xs, ∃ d, t.result = .ok d) ↔
      ∀ r ∈ xs, ∃ d, (c.viewing s answers r).1 = .ok d := by
  constructor
  · intro h r hr
    rw [← map_resource_turns c s (fun _ => answers) past xs] at hr
    obtain ⟨t, ht, rfl⟩ := List.mem_map.mp hr
    rw [← result_of_mem_turns ht]
    exact h t ht
  · intro h t ht
    rw [result_of_mem_turns ht]
    refine h t.resource ?_
    rw [← map_resource_turns c s (fun _ => answers) past xs]
    exact List.mem_map_of_mem ht

theorem run_visible_steady_of_ok (h : ∀ r ∈ xs, ∃ d, (c.viewing s answers r).1 = .ok d) :
    ((c.visible s xs).run (fun _ => answers) past).1 =
      .ok (xs.filter fun r => allows (c.viewing s answers r).1) := by
  have hcongr : ∀ t ∈ c.turns s (fun _ => answers) past xs,
      allows t.result = allows (c.viewing s answers t.resource).1 := by
    intro t ht
    rw [result_of_mem_turns ht]
  rw [run_visible_of_ok (forall_turns_iff.mpr h), List.filter_congr hcongr]
  -- The resources of the turns that are left are what is left of the resources of the turns.
  rw [← map_resource_turns c s (fun _ => answers) past xs, List.filter_map, map_resource_turns]
  rfl

theorem run_visible_steady_of_refused
    (h : ¬ ∀ r ∈ xs, ∃ d, (c.viewing s answers r).1 = .ok d) :
    ∃ before r after e, xs = before ++ r :: after ∧
      (∀ b ∈ before, ∃ d, (c.viewing s answers b).1 = .ok d) ∧
      (c.viewing s answers r).1 = .error e ∧
      (c.visible s xs).run (fun _ => answers) past =
        (.error e, past ++ (before ++ [r]).flatMap fun b => (c.viewing s answers b).2) := by
  have hturns : ¬ ∀ t ∈ c.turns s (fun _ => answers) past xs, ∃ d, t.result = .ok d := by
    rwa [forall_turns_iff]
  obtain ⟨before, t, after, e, hsplit, hbefore, ht⟩ := exists_first_refused hturns
  have hresources := map_resource_turns c s (fun _ => answers) past xs
  have hresult : ∀ b ∈ before ++ t :: after, b.result = (c.viewing s answers b.resource).1 := by
    intro b hb
    rw [← hsplit] at hb
    exact result_of_mem_turns hb
  rw [hsplit, List.map_append, List.map_cons] at hresources
  refine ⟨before.map Turn.resource, t.resource, after.map Turn.resource, e, hresources.symm,
    ?_, ?_, ?_⟩
  · intro r hr
    obtain ⟨b, hb, rfl⟩ := List.mem_map.mp hr
    rw [← hresult b (List.mem_append_left _ hb)]
    exact hbefore b hb
  · rw [← hresult t (by simp)]
    exact ht
  · rw [run_visible_of_refused hsplit hbefore ht, asked_of_turns_eq hsplit]

/-- **What is listed are the resources that may be viewed, or the first failure is reported.** Those
who respond may fail on whatever they like and look at all that was asked before.

* The checks are made one after the other, each of them where the one before left off. If none
  fails, the resources are listed whose check allows the view, in the order given and as often as
  they were given; otherwise the first failure is the outcome, and nothing is asked after it.
* Two lists one after the other are gone through one after the other.
* If those who respond do not look back, the same holds of the checks made by themselves, and when
  they all succeed, what is listed of two lists is what is listed of each, and of one bundle what is
  left of the list in that bundle. -/
theorem visible_exact {ε : Type} (c : Chain) (s : Subject) :
    (∀ (respond : Respondent ε) (past : List Question) (xs : List Resource),
      (c.turns s respond past xs).map Turn.resource = xs ∧
      ((∀ t ∈ c.turns s respond past xs, ∃ d, t.result = .ok d) →
        ((c.visible s xs).run respond past).1 =
          .ok (((c.turns s respond past xs).filter fun t => allows t.result).map
            Turn.resource)) ∧
      ((¬ ∀ t ∈ c.turns s respond past xs, ∃ d, t.result = .ok d) →
        ∃ before t after e, c.turns s respond past xs = before ++ t :: after ∧
          (∀ b ∈ before, ∃ d, b.result = .ok d) ∧ t.result = .error e ∧
          (c.visible s xs).run respond past = (.error e, t.asked))) ∧
    (∀ xs ys, c.visible s (xs ++ ys) =
      c.visible s xs >>= fun first => c.visible s ys >>= fun second => pure (first ++ second)) ∧
    ∀ (answers : (q : Question) → Except ε q.Answer) (xs : List Resource),
      ((∀ r ∈ xs, ∃ d, (c.viewing s answers r).1 = .ok d) →
        ((c.visible s xs).run (fun _ => answers) []).1 =
          .ok (xs.filter fun r => allows (c.viewing s answers r).1) ∧
        (∀ ys, (∀ r ∈ ys, ∃ d, (c.viewing s answers r).1 = .ok d) →
          ∃ first second, ((c.visible s xs).run (fun _ => answers) []).1 = .ok first ∧
            ((c.visible s ys).run (fun _ => answers) []).1 = .ok second ∧
            ((c.visible s (xs ++ ys)).run (fun _ => answers) []).1 = .ok (first ++ second)) ∧
        ∀ bundle,
          ((c.visible s (xs.filter (·.bundle == bundle))).run (fun _ => answers) []).1 =
            ((c.visible s xs).run (fun _ => answers) []).1.map
              (List.filter (·.bundle == bundle))) ∧
      ((¬ ∀ r ∈ xs, ∃ d, (c.viewing s answers r).1 = .ok d) →
        ∃ before r after e, xs = before ++ r :: after ∧
          (∀ b ∈ before, ∃ d, (c.viewing s answers b).1 = .ok d) ∧
          (c.viewing s answers r).1 = .error e ∧
          (c.visible s xs).run (fun _ => answers) [] =
            (.error e, (before ++ [r]).flatMap fun b => (c.viewing s answers b).2)) := by
  refine ⟨?_, visible_append c s, ?_⟩
  · intro respond past xs
    refine ⟨map_resource_turns c s respond past xs, run_visible_of_ok, ?_⟩
    intro hrefused
    obtain ⟨before, t, after, e, hsplit, hbefore, ht⟩ := exists_first_refused hrefused
    exact ⟨before, t, after, e, hsplit, hbefore, ht, run_visible_of_refused hsplit hbefore ht⟩
  · intro answers xs
    refine ⟨?_, run_visible_steady_of_refused⟩
    intro hxs
    refine ⟨run_visible_steady_of_ok hxs, ?_, ?_⟩
    · intro ys hys
      have hboth : ∀ r ∈ xs ++ ys, ∃ d, (c.viewing s answers r).1 = .ok d := by
        intro r hr
        rcases List.mem_append.mp hr with hr | hr
        · exact hxs r hr
        · exact hys r hr
      refine ⟨_, _, run_visible_steady_of_ok hxs, run_visible_steady_of_ok hys, ?_⟩
      rw [run_visible_steady_of_ok hboth, List.filter_append]
    · intro bundle
      have hsome : ∀ r ∈ xs.filter (·.bundle == bundle),
          ∃ d, (c.viewing s answers r).1 = .ok d := by
        intro r hr
        exact hxs r ((List.mem_filter.mp hr).1)
      rw [run_visible_steady_of_ok hxs, run_visible_steady_of_ok hsome, Except.map,
        List.filter_filter, List.filter_filter]
      simp only [Bool.and_comm]

/-! ### The newsroom while its membership is down -/

namespace Newsdesk

def chain : Chain := { bundles := Newsroom.bundles, stock := true }

def page : Resource := .plain ⟨1⟩ "page"

def membershipDown : (q : Question) → Except String q.Answer
  | .permission _ p => .ok (p == StockPermissions.accessContent)
  | .grants r => .ok (Newsroom.collaborators.grantsFor r)
  | .member _ _ => .error "unreachable"

end Newsdesk

/-- A page is listed as often as it is given. The article cannot be decided about, and then the page
behind it is not asked about. -/
theorem pages_listed :
    ((Newsdesk.chain.visible Newsroom.editor [Newsdesk.page, Newsdesk.page]).run
      (fun _ => Newsdesk.membershipDown) []).1 = .ok [Newsdesk.page, Newsdesk.page] ∧
    (Newsdesk.chain.visible Newsroom.editor
        [Newsdesk.page, Newsroom.article, Newsdesk.page]).run (fun _ => Newsdesk.membershipDown) [] =
      (.error "unreachable",
        [.permission Newsroom.editor.roles "access content", .grants Newsroom.article,
          .member ⟨1⟩ ⟨1⟩]) := by
  have hpage : ∃ d, (Newsdesk.chain.viewing Newsroom.editor Newsdesk.membershipDown
      Newsdesk.page).1 = .ok d := ⟨_, rfl⟩
  have harticle : Newsdesk.chain.viewing Newsroom.editor Newsdesk.membershipDown
      Newsroom.article = (.error "unreachable", [.grants Newsroom.article, .member ⟨1⟩ ⟨1⟩]) := by
    rfl
  obtain ⟨-, -, hsteady⟩ := visible_exact (ε := String) Newsdesk.chain Newsroom.editor
  refine ⟨?_, ?_⟩
  · have hboth := (hsteady Newsdesk.membershipDown [Newsdesk.page, Newsdesk.page]).1
    rw [(hboth (by simpa using hpage)).1]
    rfl
  · obtain ⟨before, r, after, e, hsplit, hbefore, hr, hrun⟩ := (hsteady Newsdesk.membershipDown
      [Newsdesk.page, Newsroom.article, Newsdesk.page]).2 (by simp [harticle])
    rw [hrun]
    -- The first page was decided about, so the refusal is that of the article.
    match before, hsplit with
    | [], hsplit =>
      rw [List.nil_append, List.cons.injEq] at hsplit
      obtain ⟨d, hd⟩ := hpage
      rw [← hsplit.1, hd] at hr
      cases hr
    | [_], hsplit =>
      simp only [List.cons_append, List.nil_append, List.cons.injEq] at hsplit
      obtain ⟨rfl, rfl, -⟩ := hsplit
      rw [harticle, Except.error.injEq] at hr
      subst hr
      rfl
    | _ :: b :: _, hsplit =>
      simp only [List.cons_append, List.cons.injEq] at hsplit
      obtain ⟨d, hd⟩ := hbefore b (by simp)
      rw [← hsplit.2.1, harticle] at hd
      cases hd

end Chain

end AccessControl
