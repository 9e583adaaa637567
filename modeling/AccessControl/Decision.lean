import AccessControl.Operation
import Std.Data.ExtTreeSet

/-!
# Decisions

A decision is a verdict with a reason and with what a cache must know: the *contexts* name what the
verdict varies by, the *tags* what makes it stale. There are three verdicts. A forbidden decision
stands against every other, an allowed one against a neutral one, and a neutral one leaves the
question to the next authority.
-/

set_option autoImplicit false

namespace AccessControl

/-- The verdict of a check. -/
inductive Outcome where
  | allowed
  | forbidden
  /-- No opinion. -/
  | neutral
deriving DecidableEq, Repr, Inhabited

namespace Outcome

/-- All verdicts. -/
def all : List Outcome := [.allowed, .forbidden, .neutral]

/-- The name of a verdict. -/
def name : Outcome → String
  | .allowed => "allowed"
  | .forbidden => "forbidden"
  | .neutral => "neutral"

/-- The verdict with a given name. -/
def ofName? (name : String) : Option Outcome := all.find? (·.name == name)

end Outcome

/-- A verdict, why it was reached, and what it depends on. -/
structure Decision where
  outcome : Outcome
  /-- Why, for people. -/
  reason : String
  /-- What the verdict varies by. -/
  contexts : Std.ExtTreeSet String := ∅
  /-- What makes the verdict stale. -/
  tags : Std.ExtTreeSet String := ∅
deriving DecidableEq

namespace Decision

/-! ## Contexts -/

/-- The verdict varies with the permissions of the subject. -/
def permissionsContext : String := "user.permissions"

/-- The verdict varies with the subject. -/
def subjectContext : String := "user"

/-- The verdict varies with what the subject's groups are granted. -/
def grantsContext (op : Operation) : String := "user.grants:" ++ op.name

example : [permissionsContext, subjectContext] ++ Operation.all.map grantsContext =
    ["user.permissions", "user", "user.grants:view", "user.grants:update", "user.grants:delete",
      "user.grants:create"] := by decide

/-! ## Building decisions -/

/-- Access is given. -/
def allowed (reason : String) : Decision := { outcome := .allowed, reason }

/-- Access is refused. -/
def forbidden (reason : String) : Decision := { outcome := .forbidden, reason }

/-- There is no opinion. -/
def neutral (reason : String) : Decision := { outcome := .neutral, reason }

/-- Access is given under a condition and refused without it. -/
def allowedIf (condition : Bool) (yes no : String) : Decision :=
  if condition then allowed yes else forbidden no

/-- Adds a context. -/
def withContext (d : Decision) (context : String) : Decision :=
  { d with contexts := d.contexts.insert context }

/-- Adds a tag. -/
def withTag (d : Decision) (tag : String) : Decision := { d with tags := d.tags.insert tag }

/-- Adds the permissions context. -/
def perPermissions (d : Decision) : Decision := d.withContext permissionsContext

/-! ## Asking -/

/-- Whether access is given. A neutral decision gives none. -/
def isAllowed (d : Decision) : Bool := d.outcome == .allowed

/-- Whether access is refused. -/
def isForbidden (d : Decision) : Bool := d.outcome == .forbidden

/-- Whether the question is left open. -/
def isNeutral (d : Decision) : Bool := d.outcome == .neutral

/-- The verdict, with the reason in brackets if there is one. -/
def text (d : Decision) : String :=
  if d.reason.isEmpty then d.outcome.name else d.outcome.name ++ " (" ++ d.reason ++ ")"

/-! ## Combining decisions -/

/-- Adds all contexts and tags of another decision. -/
def withCacheFrom (d other : Decision) : Decision :=
  { d with
    contexts := d.contexts.union other.contexts
    tags := d.tags.union other.tags }

/-- The joint decision of two authorities. The stronger verdict wins, with its reason; of two equal
ones the first wins. The result depends on what either depends on. -/
def orElse (d other : Decision) : Decision :=
  match d.outcome, other.outcome with
  | .forbidden, _ => d.withCacheFrom other
  | _, .forbidden => other.withCacheFrom d
  | .allowed, _ => d.withCacheFrom other
  | _, .allowed => other.withCacheFrom d
  | .neutral, .neutral => d.withCacheFrom other

end Decision

end AccessControl
