import AccessControl.Identifier
import AccessControl.Role

/-!
# Subjects

A subject is who asks: an account number, if there is an account, and the roles held while the
question is being answered. A subject counts as *anonymous* in three cases, and anonymous subjects
belong to no group: there is no account, there is no role, or the role `anonymous` is the only one.
-/

set_option autoImplicit false

namespace AccessControl

/-- Someone who asks for access. -/
structure Subject where
  /-- The account; `none` for a visitor without one. -/
  id : Option SubjectId
  /-- The roles held for the duration of the request. -/
  roles : RoleSet
deriving DecidableEq

namespace Subject

/-- A subject with an account, who holds `authenticated` besides the given roles. -/
def account (id : SubjectId) (roles : RoleSet) : Subject :=
  { id := some id, roles := roles.insert .authenticated }

/-- A visitor, who holds `anonymous` besides the given roles. -/
def visitor (roles : RoleSet) : Subject :=
  { id := none, roles := roles.insert .anonymous }

/-- The subject that a request is made for: with an account number or without. -/
def ofRequest (id : Option SubjectId) (roles : RoleSet) : Subject :=
  match id with
  | some id => account id roles
  | none => visitor roles

/-- Whether the subject is an anonymous visitor. -/
def isAnonymous (s : Subject) : Bool :=
  s.id.isNone || s.roles.isEmpty || (s.roles.size == 1 && s.roles.contains .anonymous)

end Subject

end AccessControl
