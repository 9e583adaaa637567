import AccessControl.Grant
import AccessControl.Resource
import AccessControl.Role

/-!
# Consultations

A decision is reached by asking others: who holds which permission, which grants a resource has, who
belongs to which group. Those who answer may fail, and how often and in which order they are asked
can be seen from outside, so both are part of what a decision procedure *is*. A `Consultation` is
such a procedure as a tree: it either has its result or asks one question and goes on with the
answer.

The procedure is written once and read in two ways. `eval` answers every question from collaborators
that never fail. `run` puts the questions one after another to a respondent that may know all
questions asked before and may refuse any of them; it gives the result or the first refusal, and
**the questions asked, in order, the refused one included**.

Both readings go through a procedure step by step: that of two procedures one after the other is
made of theirs (`eval_bind`, `run_bind`).
-/

set_option autoImplicit false

namespace AccessControl

/-- Something that a decision procedure may want to know. -/
inductive Question where
  /-- Does one of these roles give this permission? -/
  | permission (roles : RoleSet) (permission : String)
  /-- Which grants does this resource have? -/
  | grants (resource : Resource)
  /-- Does this subject belong to this group? -/
  | member (subject : SubjectId) (group : GroupId)
deriving DecidableEq

/-- The kind of answer that a question has. -/
abbrev Question.Answer : Question → Type
  | .permission _ _ => Bool
  | .grants _ => List Grant
  | .member _ _ => Bool

/-- A procedure that asks questions and comes to a result. -/
inductive Consultation (α : Type) where
  /-- The result. -/
  | done (result : α)
  /-- A question, and how to go on with each answer. -/
  | ask (question : Question) (next : question.Answer → Consultation α)

namespace Consultation

variable {α β : Type}

/-- Goes on with the result of a procedure. -/
def bind (c : Consultation α) (f : α → Consultation β) : Consultation β :=
  match c with
  | .done a => f a
  | .ask q next => .ask q fun answer => (next answer).bind f

instance : Monad Consultation where
  pure := .done
  bind := bind

theorem bind_done (c : Consultation α) : c.bind .done = c := by
  induction c with
  | done a => rfl
  | ask q next ih => exact congrArg (ask q) (funext ih)

theorem bind_bind {γ : Type} (c : Consultation α) (f : α → Consultation β)
    (g : β → Consultation γ) : (c.bind f).bind g = c.bind fun a => (f a).bind g := by
  induction c with
  | done a => rfl
  | ask q next ih => exact congrArg (ask q) (funext ih)

instance : LawfulMonad Consultation :=
  LawfulMonad.mk' Consultation bind_done (fun _ _ => rfl) bind_bind

/-- Asks whether roles give a permission. -/
def holds (roles : RoleSet) (permission : String) : Consultation Bool :=
  .ask (.permission roles permission) .done

/-- Asks for the grants of a resource. -/
def grantsOf (resource : Resource) : Consultation (List Grant) := .ask (.grants resource) .done

/-- Asks whether a subject belongs to a group. -/
def isMember (subject : SubjectId) (group : GroupId) : Consultation Bool :=
  .ask (.member subject group) .done

end Consultation

/-! ## Answering without fail -/

/-- Those who answer every question. -/
structure Collaborators where
  /-- Whether roles give a permission. -/
  holds : RoleSet → String → Bool
  /-- The grants of a resource. -/
  grantsFor : Resource → List Grant
  /-- Whether a subject belongs to a group. -/
  isMember : SubjectId → GroupId → Bool

/-- The answer to any question. -/
def Collaborators.answer (c : Collaborators) : (q : Question) → q.Answer
  | .permission roles permission => c.holds roles permission
  | .grants resource => c.grantsFor resource
  | .member subject group => c.isMember subject group

/-- The result when every question is answered. -/
def Consultation.eval {α : Type} (collaborators : Collaborators) : Consultation α → α
  | .done a => a
  | .ask q next => (next (collaborators.answer q)).eval collaborators

namespace Consultation

variable {α β : Type}

@[simp] theorem eval_pure (k : Collaborators) (a : α) : (pure a : Consultation α).eval k = a := rfl

@[simp] theorem eval_bind (k : Collaborators) (c : Consultation α) (f : α → Consultation β) :
    (c >>= f).eval k = (f (c.eval k)).eval k := by
  induction c with
  | done a => rfl
  | ask q next ih => exact ih _

end Consultation

/-! ## Answering or refusing -/

/-- One who answers or refuses each question, and may look at all that was asked before. -/
abbrev Respondent (ε : Type) := List Question → (q : Question) → Except ε q.Answer

/-- The result or the first refusal, and all questions asked; `past` are those asked before. -/
def Consultation.run {ε α : Type} (respond : Respondent ε) (past : List Question) :
    Consultation α → Except ε α × List Question
  | .done a => (.ok a, past)
  | .ask q next =>
    match respond past q with
    | .ok answer => (next answer).run respond (past ++ [q])
    | .error e => (.error e, past ++ [q])

namespace Consultation

variable {ε α β : Type}

@[simp] theorem run_pure (respond : Respondent ε) (past : List Question) (a : α) :
    (pure a : Consultation α).run respond past = (.ok a, past) := rfl

/-- What follows starts with the questions asked so far, and does not start after a refusal. -/
theorem run_bind (respond : Respondent ε) (past : List Question) (c : Consultation α)
    (f : α → Consultation β) :
    (c >>= f).run respond past =
      match c.run respond past with
      | (.ok a, past) => (f a).run respond past
      | (.error e, past) => (.error e, past) := by
  induction c generalizing past with
  | done a => rfl
  | ask q next ih =>
    show Consultation.run respond past (.ask q fun answer => next answer >>= f) = _
    simp only [run]
    cases respond past q with
    | ok answer => exact ih answer _
    | error e => rfl

end Consultation

end AccessControl
