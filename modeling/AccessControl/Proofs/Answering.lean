import AccessControl.Consultation

/-!
# Runs of consultations

`Consultation.run` puts the questions to a respondent that may refuse, `Consultation.eval` takes the
answers from collaborators that never do. Collaborators *are* a respondent, one that refuses nothing
and does not care what was asked before, and to them the two readings agree: the run ends with a
result, and the result is the value (`run_respondent`). Whatever is shown of values is therefore a
statement about runs that nobody fails.

With a respondent that may refuse, the point is what a run does *not* do. It does not go on after a
refusal, it does not turn one into a result, and it does not depend on answers it has not asked for.
All three are facts about the questions that were asked, each with those that were asked before it
(`Asks`), and together they are `Faithful`. Every consultation is (`faithful`), since there is no way
to write one that is not: a question is gone on from with an answer only. That the procedures are
also those of a program that has to pass every refusal on is shown for each of them
(`Chain.run_check`).

What *can* go wrong in a consultation is which questions it asks. `AsksOnly` bounds them by a
property and `AsksAtMost` by a number, both whatever is answered, and a run stays within the bounds
(`AsksOnly.of_mem_run`, `AsksAtMost.countP_run`).
-/

set_option autoImplicit false

namespace AccessControl

variable {ε α β : Type}

/-- Collaborators as a respondent that refuses nothing. -/
def Collaborators.respondent (k : Collaborators) : Respondent ε := fun _ q => .ok (k.answer q)

/-- **When nobody fails there is a result**, and it is the value of the procedure. -/
theorem Consultation.run_respondent (k : Collaborators) (past : List Question)
    (c : Consultation α) :
    (c.run (k.respondent : Respondent ε) past).1 = .ok (c.eval k) := by
  induction c generalizing past with
  | done a => rfl
  | ask q next ih => exact ih (k.answer q) (past ++ [q])

namespace Consultation

variable {respond : Respondent ε} {past before after : List Question} {q : Question}

/-! ## What a run asks -/

/-- The questions of a run, in order; those asked before it are left out. -/
def asked (respond : Respondent ε) (past : List Question) : Consultation α → List Question
  | .done _ => []
  | .ask q next =>
    q :: match respond past q with
      | .ok answer => (next answer).asked respond (past ++ [q])
      | .error _ => []

theorem run_snd (respond : Respondent ε) (past : List Question) (c : Consultation α) :
    (c.run respond past).2 = past ++ c.asked respond past := by
  induction c generalizing past with
  | done a => simp [run, asked]
  | ask q next ih =>
    simp only [run, asked]
    cases respond past q with
    | ok answer => simp [ih]
    | error e => rfl

/-- Of two procedures one after the other, the second asks only once the first has its result. -/
theorem asked_bind (respond : Respondent ε) (past : List Question) (c : Consultation α)
    (f : α → Consultation β) :
    (c >>= f).asked respond past =
      c.asked respond past ++
        match (c.run respond past).1 with
        | .ok a => (f a).asked respond (past ++ c.asked respond past)
        | .error _ => [] := by
  induction c generalizing past with
  | done a =>
    simp only [asked, run, List.nil_append, List.append_nil]
    rfl
  | ask q next ih =>
    show Consultation.asked respond past (.ask q fun answer => next answer >>= f) = _
    simp only [asked, run]
    cases respond past q with
    | ok answer =>
      simp only [ih answer, List.append_assoc, List.cons_append, List.nil_append]
    | error e => rfl

/-- What was asked before matters to the respondent only. -/
theorem run_append (respond : Respondent ε) (before past : List Question) (c : Consultation α) :
    c.run respond (before ++ past) =
      ((c.run (fun later => respond (before ++ later)) past).1,
        before ++ (c.run (fun later => respond (before ++ later)) past).2) := by
  induction c generalizing past with
  | done a => rfl
  | ask q next ih =>
    simp only [run]
    cases respond (before ++ past) q with
    | ok answer =>
      simp only [List.append_assoc]
      exact ih answer (past ++ [q])
    | error e => simp

theorem asked_append (respond : Respondent ε) (before past : List Question) (c : Consultation α) :
    c.asked respond (before ++ past) = c.asked (fun later => respond (before ++ later)) past := by
  have hlog := congrArg Prod.snd (run_append respond before past c)
  simp only [run_snd, List.append_assoc] at hlog
  exact List.append_cancel_left (List.append_cancel_left hlog)

/-- To those who do not look back a procedure is the same at any time. -/
theorem run_steady (answers : (q : Question) → Except ε q.Answer) (past : List Question)
    (c : Consultation α) :
    c.run (fun _ => answers) past =
      ((c.run (fun _ => answers) []).1, past ++ (c.run (fun _ => answers) []).2) := by
  have happend := run_append (fun _ => answers) past [] c
  rwa [List.append_nil] at happend

/-- What is asked first, and what is asked once it is answered. -/
theorem asked_ask_eq {next : q.Answer → Consultation α} {x : Question}
    (h : (ask q next).asked respond past = before ++ x :: after) :
    (before = [] ∧ x = q) ∨
      ∃ rest answer, before = q :: rest ∧ respond past q = .ok answer ∧
        (next answer).asked respond (past ++ [q]) = rest ++ x :: after := by
  simp only [asked] at h
  cases before with
  | nil =>
    rw [List.nil_append, List.cons.injEq] at h
    exact Or.inl ⟨rfl, h.1.symm⟩
  | cons first rest =>
    rw [List.cons_append, List.cons.injEq] at h
    obtain ⟨rfl, htail⟩ := h
    cases hanswer : respond past q with
    | ok answer => exact Or.inr ⟨rest, answer, rfl, rfl, by rw [hanswer] at htail; exact htail⟩
    | error e =>
      rw [hanswer] at htail
      simp at htail

theorem run_of_refused {c : Consultation α} {e : ε}
    (h : c.asked respond past = before ++ q :: after)
    (hrefused : respond (past ++ before) q = .error e) :
    c.run respond past = (.error e, past ++ before ++ [q]) := by
  -- The respondent sees the whole past, so it grows with every answer on the way down the tree.
  induction c generalizing past before with
  | done a => simp [asked] at h
  | ask first next ih =>
    rcases asked_ask_eq h with ⟨rfl, rfl⟩ | ⟨rest, answer, rfl, hanswer, hrest⟩
    · rw [List.append_nil] at hrefused
      simp only [run, hrefused, List.append_nil]
    · simp only [run, hanswer]
      rw [← List.singleton_append, ← List.append_assoc] at hrefused
      rw [ih answer hrest hrefused, List.append_assoc past, List.singleton_append]

theorem exists_refused {c : Consultation α} {e : ε} (h : (c.run respond past).1 = .error e) :
    ∃ before q after, c.asked respond past = before ++ q :: after ∧
      respond (past ++ before) q = .error e := by
  induction c generalizing past with
  | done a => simp [run] at h
  | ask q next ih =>
    cases hanswer : respond past q with
    | error e' =>
      simp only [run, hanswer, Except.error.injEq] at h
      subst h
      exact ⟨[], q, [], by simp [asked, hanswer], by rw [List.append_nil, hanswer]⟩
    | ok answer =>
      simp only [run, hanswer] at h
      obtain ⟨before, x, after, hasked, hrefused⟩ := ih answer h
      refine ⟨q :: before, x, after, by simp [asked, hanswer, hasked], ?_⟩
      rw [← List.singleton_append, ← List.append_assoc]
      exact hrefused

/-- A run is decided by how the questions asked in it are responded to. -/
theorem run_congr {respond' : Respondent ε} {c : Consultation α}
    (h : ∀ before q after, c.asked respond past = before ++ q :: after →
      respond' (past ++ before) q = respond (past ++ before) q) :
    c.run respond' past = c.run respond past := by
  induction c generalizing past with
  | done a => rfl
  | ask q next ih =>
    have hfirst := h [] q _ (by rw [asked, List.nil_append])
    rw [List.append_nil] at hfirst
    simp only [run, hfirst]
    cases hanswer : respond past q with
    | error e => rfl
    | ok answer =>
      refine ih answer fun before x after hasked => ?_
      have hlater := h (q :: before) x after (by simp [asked, hanswer, hasked])
      rwa [← List.singleton_append, ← List.append_assoc] at hlater

/-! ## Faithful runs -/

/-- Whether the run that starts with nothing asked comes to ask a question, and what it has asked by
then. -/
def Asks (respond : Respondent ε) (c : Consultation α) (before : List Question) (q : Question) : Prop :=
  ∃ after, (c.run respond []).2 = before ++ q :: after

/-- What a run owes to those who respond. -/
structure Faithful (respond : Respondent ε) (c : Consultation α) : Prop where
  /-- It fails exactly if a question that it asks is refused. -/
  error_iff : (∃ e, (c.run respond []).1 = .error e) ↔
    ∃ before q e, c.Asks respond before q ∧ respond before q = .error e
  /-- The refused question is the last one, and the refusal is the result. -/
  refused : ∀ before q e, c.Asks respond before q → respond before q = .error e →
    c.run respond [] = (.error e, before ++ [q])
  /-- Without a refusal there is a result. -/
  answered : (∀ before q, c.Asks respond before q → ∃ answer, respond before q = .ok answer) →
    ∃ a, (c.run respond []).1 = .ok a
  /-- It is that of any collaborators who never fail and would have given the same answers. -/
  value : ∀ k : Collaborators,
    (∀ before q, c.Asks respond before q → respond before q = .ok (k.answer q)) →
      (c.run respond []).1 = .ok (c.eval k)
  /-- It is also that of any respondent who responds alike to what is asked, whatever they would say
  to anything else. -/
  congr : ∀ respond' : Respondent ε,
    (∀ before q, c.Asks respond before q → respond' before q = respond before q) →
      c.run respond' [] = c.run respond []

theorem asks_iff {c : Consultation α} :
    c.Asks respond before q ↔ ∃ after, c.asked respond [] = before ++ q :: after := by
  unfold Asks
  rw [run_snd, List.nil_append]

/-- **Every consultation is faithful.** -/
theorem faithful (respond : Respondent ε) (c : Consultation α) : c.Faithful respond := by
  have hrefused : ∀ before q e, c.Asks respond before q → respond before q = .error e →
      c.run respond [] = (.error e, before ++ [q]) := by
    intro before q e hasks he
    obtain ⟨after, hasked⟩ := asks_iff.mp hasks
    exact run_of_refused hasked he
  have hexists : ∀ e, (c.run respond []).1 = .error e →
      ∃ before q, c.Asks respond before q ∧ respond before q = .error e := by
    intro e he
    obtain ⟨before, q, after, hasked, he⟩ := exists_refused he
    exact ⟨before, q, asks_iff.mpr ⟨after, hasked⟩, he⟩
  have hcongr : ∀ respond' : Respondent ε,
      (∀ before q, c.Asks respond before q → respond' before q = respond before q) →
        c.run respond' [] = c.run respond [] := by
    intro respond' h
    exact run_congr fun before q after hasked => h before q (asks_iff.mpr ⟨after, hasked⟩)
  refine ⟨⟨?_, ?_⟩, hrefused, ?_, ?_, hcongr⟩
  · rintro ⟨e, he⟩
    obtain ⟨before, q, hasks, he⟩ := hexists e he
    exact ⟨before, q, e, hasks, he⟩
  · rintro ⟨before, q, e, hasks, he⟩
    exact ⟨e, by rw [hrefused before q e hasks he]⟩
  · intro hanswered
    cases hresult : (c.run respond []).1 with
    | ok a => exact ⟨a, rfl⟩
    | error e =>
      obtain ⟨before, q, hasks, he⟩ := hexists e hresult
      obtain ⟨answer, hanswer⟩ := hanswered before q hasks
      simp [he] at hanswer
  · intro k hagree
    rw [← hcongr k.respondent fun before q hasks => (hagree before q hasks).symm]
    exact run_respondent k [] c

/-! ## Bounds on what is asked -/

/-- Whatever is answered, only questions with a property are asked. -/
def AsksOnly (P : Question → Prop) : Consultation α → Prop
  | .done _ => True
  | .ask q next => P q ∧ ∀ answer, (next answer).AsksOnly P

/-- Whatever is answered, no more than a number of questions of some kind are asked. -/
def AsksAtMost (p : Question → Bool) : Nat → Consultation α → Prop
  | _, .done _ => True
  | n, .ask q next =>
    if p q then ∃ m, n = m + 1 ∧ ∀ answer, (next answer).AsksAtMost p m
    else ∀ answer, (next answer).AsksAtMost p n

variable {P Q : Question → Prop} {p : Question → Bool} {m n : Nat}

theorem AsksOnly.bind {c : Consultation α} {f : α → Consultation β} (hc : c.AsksOnly P)
    (hf : ∀ a, (f a).AsksOnly P) : (c >>= f).AsksOnly P := by
  induction c with
  | done a => exact hf a
  | ask q next ih => exact ⟨hc.1, fun answer => ih answer (hc.2 answer)⟩

theorem AsksOnly.mono {c : Consultation α} (hc : c.AsksOnly P) (h : ∀ q, P q → Q q) :
    c.AsksOnly Q := by
  induction c with
  | done a => trivial
  | ask q next ih => exact ⟨h q hc.1, fun answer => ih answer (hc.2 answer)⟩

theorem AsksOnly.of_mem_asked {c : Consultation α} (hc : c.AsksOnly P)
    (hq : q ∈ c.asked respond past) : P q := by
  induction c generalizing past with
  | done a => simp [asked] at hq
  | ask first next ih =>
    simp only [asked, List.mem_cons] at hq
    rcases hq with rfl | hq
    · exact hc.1
    · cases hanswer : respond past first with
      | ok answer =>
        rw [hanswer] at hq
        exact ih answer (hc.2 answer) hq
      | error e => simp [hanswer] at hq

theorem AsksOnly.of_mem_run {c : Consultation α} (hc : c.AsksOnly P)
    (hq : q ∈ (c.run respond []).2) : P q := by
  rw [run_snd, List.nil_append] at hq
  exact hc.of_mem_asked hq

/-- Collaborators who answer alike what may be asked bring about the same value. -/
theorem AsksOnly.eval_congr {k k' : Collaborators} {c : Consultation α} (hc : c.AsksOnly P)
    (h : ∀ q, P q → k'.answer q = k.answer q) : c.eval k' = c.eval k := by
  induction c with
  | done a => rfl
  | ask q next ih =>
    rw [eval, eval, h q hc.1]
    exact ih (k.answer q) (hc.2 (k.answer q))

theorem AsksAtMost.mono {c : Consultation α} (hc : c.AsksAtMost p m) (hmn : m ≤ n) :
    c.AsksAtMost p n := by
  induction c generalizing m n with
  | done a => trivial
  | ask q next ih =>
    simp only [AsksAtMost] at hc ⊢
    split at hc
    · obtain ⟨m, rfl, hnext⟩ := hc
      rw [if_pos (by assumption)]
      exact ⟨n - 1, by omega, fun answer => ih answer (hnext answer) (by omega)⟩
    · rw [if_neg (by assumption)]
      exact fun answer => ih answer (hc answer) hmn

theorem AsksAtMost.bind {c : Consultation α} {f : α → Consultation β} (hc : c.AsksAtMost p m)
    (hf : ∀ a, (f a).AsksAtMost p n) : (c >>= f).AsksAtMost p (m + n) := by
  induction c generalizing m with
  | done a => exact (hf a).mono (Nat.le_add_left n m)
  | ask q next ih =>
    show (ask q fun answer => next answer >>= f).AsksAtMost p (m + n)
    simp only [AsksAtMost] at hc ⊢
    split at hc
    · obtain ⟨m, rfl, hnext⟩ := hc
      rw [if_pos (by assumption)]
      exact ⟨m + n, by omega, fun answer => ih answer (hnext answer)⟩
    · rw [if_neg (by assumption)]
      exact fun answer => ih answer (hc answer)

theorem AsksOnly.asksAtMost_zero {c : Consultation α} (hc : c.AsksOnly P)
    (h : ∀ q, P q → p q = false) : c.AsksAtMost p 0 := by
  induction c with
  | done a => trivial
  | ask q next ih =>
    simp only [AsksAtMost, h q hc.1, Bool.false_eq_true, if_false]
    exact fun answer => ih answer (hc.2 answer)

theorem AsksAtMost.countP_asked {c : Consultation α} (hc : c.AsksAtMost p n) :
    (c.asked respond past).countP p ≤ n := by
  induction c generalizing past n with
  | done a => simp [asked]
  | ask q next ih =>
    simp only [AsksAtMost] at hc
    simp only [asked, List.countP_cons]
    cases hanswer : respond past q with
    | error e =>
      split at hc
      · obtain ⟨m, rfl, -⟩ := hc
        simp only [List.countP_nil, Nat.zero_add]
        split <;> omega
      · simp [*]
    | ok answer =>
      split at hc
      · obtain ⟨m, rfl, hnext⟩ := hc
        simp only [if_true, *]
        exact Nat.succ_le_succ (ih answer (hnext answer))
      · simp only [*]
        exact ih answer (hc answer)

theorem AsksAtMost.countP_run {c : Consultation α} (hc : c.AsksAtMost p n) :
    (c.run respond []).2.countP p ≤ n := by
  rw [run_snd, List.nil_append]
  exact hc.countP_asked

end Consultation

end AccessControl
