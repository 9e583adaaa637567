import AccessControl.Text.Numeral

/-!
# Numeric identifiers

Subjects, groups and resources are numbered by 64-bit words. The three kinds of number are kept
apart by the type, so that a group cannot be asked for where a subject is meant, and share
everything else.
-/

set_option autoImplicit false

namespace AccessControl

/-- What an identifier numbers. -/
inductive Numbered where
  /-- User accounts. -/
  | subject
  /-- Groups of subjects, the targets of grants. -/
  | group
  /-- Resources within a bundle. -/
  | resource

/-- A number for a thing of some kind. -/
structure Identifier (kind : Numbered) where
  /-- The number itself. -/
  number : UInt64
deriving DecidableEq, Repr, Inhabited, Hashable

/-- The number of a user account. -/
abbrev SubjectId := Identifier .subject

/-- The number of a group. -/
abbrev GroupId := Identifier .group

/-- The number of a resource, unique within its bundle. -/
abbrev ResourceId := Identifier .resource

namespace Identifier

variable {kind : Numbered}

/-- Identifiers are ordered by their numbers. -/
instance : Ord (Identifier kind) := ⟨compareOn number⟩

instance : Std.TransOrd (Identifier kind) :=
  inferInstanceAs (Std.TransCmp (compareOn (number : Identifier kind → UInt64)))

instance : Std.LawfulEqOrd (Identifier kind) where
  eq_of_compare {a b} h := by
    obtain ⟨a⟩ := a
    obtain ⟨b⟩ := b
    exact congrArg Identifier.mk (Std.LawfulEqOrd.eq_of_compare h)

/-- The decimal digits of an identifier. -/
def text (i : Identifier kind) : String := Text.wordText i.number

end Identifier

end AccessControl
