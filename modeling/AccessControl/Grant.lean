import AccessControl.Field
import AccessControl.Identifier
import AccessControl.Operation

/-!
# Grants

A grant says what the members of one group may do with a resource, and whether everyone may view it.

Reading a grant from a stored item never fails: what cannot be understood counts as not set. A grant
that has lost its group this way but has a flag is *malformed* and takes no part in decisions.
Writing goes through signed 64-bit integers, so a group number above the largest of them cannot be
stored and the target is left out.
-/

set_option autoImplicit false

namespace AccessControl

/-- A grant for one group. -/
structure Grant where
  /-- The group whose members the flags are for. -/
  target : Option GroupId
  /-- Everyone may view. -/
  isPublic : Bool
  /-- Members may view. -/
  view : Bool
  /-- Members may update. -/
  update : Bool
  /-- Members may delete. -/
  delete : Bool
deriving DecidableEq, Repr, Inhabited

namespace Grant

/-! ## The names of the values in an item -/

/-- The group. -/
def targetKey : String := "target_id"
/-- The flag for everyone. -/
def publicKey : String := "grant_public"
/-- The flag for members to view. -/
def viewKey : String := "grant_view"
/-- The flag for members to update. -/
def updateKey : String := "grant_update"
/-- The flag for members to delete. -/
def deleteKey : String := "grant_delete"

/-! ## Reading and writing items -/

/-- The grant that an item stands for. -/
def ofItem (item : FieldItem) : Grant where
  target := (item[targetKey]?.bind FieldValue.asId).map Identifier.mk
  isPublic := item.flag publicKey
  view := item.flag viewKey
  update := item.flag updateKey
  delete := item.flag deleteKey

/-- A flag as it is stored. -/
def storedFlag (b : Bool) : FieldValue := .int (if b then 1 else 0)

/-- A group as it is stored, if it can be. -/
def storedTarget? (g : GroupId) : Option FieldValue :=
  if g.number.toNat < Text.signedLimit then some (.int (Int64.ofNat g.number.toNat)) else none

/-- The item that stands for a grant. -/
def toItem (g : Grant) : FieldItem :=
  let flags : FieldItem := ((((∅ : FieldItem).insert publicKey (storedFlag g.isPublic)).insert
    viewKey (storedFlag g.view)).insert updateKey (storedFlag g.update)).insert
    deleteKey (storedFlag g.delete)
  match g.target.bind storedTarget? with
  | some v => flags.insert targetKey v
  | none => flags

/-! ## What a grant gives -/

/-- Whether any flag is set. -/
def hasFlags (g : Grant) : Bool := g.isPublic || g.view || g.update || g.delete

/-- Whether the grant has flags but no group. -/
def isMalformed (g : Grant) : Bool := g.target.isNone && g.hasFlags

/-- Whether members of the group may do an operation. No grant lets anyone create. -/
def givesMembers (g : Grant) : Operation → Bool
  | .view => g.view
  | .update => g.update
  | .delete => g.delete
  | .create => false

/-- Whether everyone may do an operation. The flag for everyone is about viewing only. -/
def givesEveryone (g : Grant) (op : Operation) : Bool := g.isPublic && op == .view

variable {g : Grant} {op : Operation}

theorem isMalformed_iff :
    g.isMalformed = true ↔ g.target = none ∧
      (g.isPublic = true ∨ g.view = true ∨ g.update = true ∨ g.delete = true) := by
  simp [isMalformed, hasFlags, or_assoc]

theorem givesMembers_iff :
    g.givesMembers op = true ↔ op = .view ∧ g.view = true ∨ op = .update ∧ g.update = true ∨
      op = .delete ∧ g.delete = true := by
  cases op <;> simp [givesMembers]

theorem givesEveryone_iff : g.givesEveryone op = true ↔ op = .view ∧ g.isPublic = true := by
  simp [givesEveryone, and_comm]

end Grant

end AccessControl
