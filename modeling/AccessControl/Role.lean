import AccessControl.Text.Quoted
import Std.Data.ExtTreeSet

/-!
# Roles and role sets

A role is a machine name: one to 64 characters, each a lower-case letter, a digit, a hyphen or an
underscore. The length is counted in bytes and looked at before the characters are, so a long name
of foreign letters is refused for its length.

`RoleId` carries the proof of its own validity, so no role that breaks the rule can be built, by
whatever way it comes in. Role sets are finite sets in name order; two with the same members are
equal.
-/

set_option autoImplicit false

namespace AccessControl

/-- The greatest number of bytes in a role name. -/
def maxRoleLength : Nat := 64

/-- Why a name is no role. -/
inductive RoleFault where
  | empty
  /-- The name has this many bytes, which is more than the greatest number. -/
  | tooLong (bytes : Nat)
  | badCharacter
deriving DecidableEq, Repr

/-- The wording of each fault. -/
def RoleFault.message : RoleFault → String
  | .empty => "role id cannot be empty"
  | .tooLong bytes => s!"role id too long ({bytes} chars, max {maxRoleLength})"
  | .badCharacter => "role id must be lowercase alphanumeric with hyphens or underscores"

/-- Whether a character may stand in a role name. -/
def isRoleChar (c : Char) : Bool := c.isLower || c.isDigit || c == '-' || c == '_'

/-- What is wrong with a name, if anything is. -/
def roleFault? (name : String) : Option RoleFault :=
  if name.isEmpty then some .empty
  else if maxRoleLength < name.utf8ByteSize then some (.tooLong name.utf8ByteSize)
  else if name.toList.all isRoleChar then none
  else some .badCharacter

/-- A role, named by a text in which nothing is wrong. -/
structure RoleId where
  /-- The name. -/
  name : String
  /-- The name follows the rule. -/
  valid : roleFault? name = none
deriving DecidableEq

namespace RoleId

@[ext] theorem ext {a b : RoleId} (h : a.name = b.name) : a = b := by
  obtain ⟨a, _⟩ := a
  obtain ⟨b, _⟩ := b
  cases h
  rfl

instance : Repr RoleId := ⟨fun r _ => repr r.name⟩

/-- Roles are ordered by their names. -/
instance : Ord RoleId := ⟨compareOn name⟩

instance : Std.TransOrd RoleId := inferInstanceAs (Std.TransCmp (compareOn name))

instance : Std.LawfulEqOrd RoleId where
  eq_of_compare h := RoleId.ext (Std.LawfulEqOrd.eq_of_compare h)

/-- The role with a given name. -/
def ofString (name : String) : Except RoleFault RoleId :=
  match h : roleFault? name with
  | none => .ok ⟨name, h⟩
  | some fault => .error fault

/-- The role that is taken away before ordinary permission checks. -/
def administrator : RoleId := ⟨"administrator", by decide⟩

/-- The implicit role of a visitor without an account. -/
def anonymous : RoleId := ⟨"anonymous", by decide⟩

/-- The implicit role of every subject with an account. -/
def authenticated : RoleId := ⟨"authenticated", by decide⟩

end RoleId

/-- The roles that someone holds, in name order. -/
abbrev RoleSet := Std.ExtTreeSet RoleId

/-- A name that was given as a role and is none. -/
structure InvalidRole where
  name : String
  fault : RoleFault
deriving DecidableEq, Repr

/-- The name and what is wrong with it. -/
def InvalidRole.message (e : InvalidRole) : String :=
  "invalid role " ++ Text.quote e.name ++ ": " ++ e.fault.message

namespace RoleSet

/-- The roles with the given names, or the first name that is no role. -/
def parse (names : List String) : Except InvalidRole RoleSet := do
  let roles ← names.mapM fun name => (RoleId.ofString name).mapError (InvalidRole.mk name)
  return Std.ExtTreeSet.ofList roles

/-- Whether a role of the given name is held. -/
def holds (roles : RoleSet) (name : String) : Bool := roles.toList.any (·.name == name)

/-- The roles other than `administrator`. An administrator thus has, in ordinary checks, only the
permissions that other roles give. -/
def withoutAdministrator (roles : RoleSet) : RoleSet := roles.erase .administrator

end RoleSet

end AccessControl
