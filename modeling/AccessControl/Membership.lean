import AccessControl.Identifier
import Std.Data.ExtTreeMap
import Std.Data.ExtTreeSet

/-!
# Group membership

Which subjects belong to which group. A group that is listed several times has all the members
listed.
-/

set_option autoImplicit false

namespace AccessControl

/-- The members of each group. -/
abbrev Membership := Std.ExtTreeMap GroupId (Std.ExtTreeSet SubjectId)

namespace Membership

/-- Makes a subject a member of a group. -/
def add (m : Membership) (group : GroupId) (subject : SubjectId) : Membership :=
  m.alter group fun members => some ((members.getD ∅).insert subject)

/-- The membership that lists of members describe. -/
def ofList (groups : List (GroupId × List SubjectId)) : Membership :=
  groups.foldl (fun m (group, members) => members.foldl (fun m s => m.add group s) m) ∅

/-- Whether a subject belongs to a group. -/
def isMember (m : Membership) (subject : SubjectId) (group : GroupId) : Bool :=
  match m[group]? with
  | some members => members.contains subject
  | none => false

/-- The groups a subject belongs to, in ascending order. -/
def groupsOf (m : Membership) (subject : SubjectId) : List GroupId :=
  (m.toList.filter fun (_, members) => members.contains subject).map Prod.fst

end Membership

end AccessControl
