import AccessControl.Grant
import AccessControl.Resource

/-!
# The grant store

The store keeps, for each resource and each of its grant fields, the list of items saved last.
Saving an empty list clears the field, and a resource without fields has no entry, so nothing tells
a cleared field from one that was never saved. Items are kept as they were saved and are read as
grants when they are asked for: field by field in name order, and within a field in the order saved.
-/

set_option autoImplicit false

namespace AccessControl

/-- What the store knows a resource by. The lock and the owner do not matter to it. -/
structure ResourceKey where
  bundle : String
  id : ResourceId
deriving DecidableEq, Repr

namespace ResourceKey

/-- Keys are ordered by bundle and then by number. -/
instance : Ord ResourceKey := ⟨compareLex (compareOn bundle) (compareOn id)⟩

instance : Std.TransOrd ResourceKey :=
  inferInstanceAs (Std.TransCmp (compareLex (compareOn bundle) (compareOn id)))

instance : Std.LawfulEqOrd ResourceKey where
  eq_of_compare {a b} h := by
    obtain ⟨a, i⟩ := a
    obtain ⟨b, j⟩ := b
    have h : (compare a b).then (compare i j) = .eq := h
    rw [Ordering.then_eq_eq] at h
    rw [Std.LawfulEqOrd.eq_of_compare h.1, Std.LawfulEqOrd.eq_of_compare h.2]

end ResourceKey

/-- What a resource is known by. -/
def Resource.key (r : Resource) : ResourceKey := ⟨r.bundle, r.id⟩

/-- The items of each grant field of a resource. -/
abbrev FieldMap := Std.ExtTreeMap String (List FieldItem)

/-- The saved items of all resources. -/
abbrev Store := Std.ExtTreeMap ResourceKey FieldMap

namespace Store

/-- Replaces the items of one field, or clears it. -/
def setField (fields : FieldMap) (field : String) (items : List FieldItem) : FieldMap :=
  if items.isEmpty then fields.erase field else fields.insert field items

/-- Saves the items of one field of a resource. -/
def save (store : Store) (r : Resource) (field : String) (items : List FieldItem) : Store :=
  store.alter r.key fun fields =>
    let fields := setField (fields.getD ∅) field items
    if fields.isEmpty then none else some fields

/-- Saves grants as the items of one field of a resource. -/
def saveGrants (store : Store) (r : Resource) (field : String) (grants : List Grant) : Store :=
  store.save r field (grants.map Grant.toItem)

/-- The grants of a resource. -/
def grantsFor (store : Store) (r : Resource) : List Grant :=
  match store[r.key]? with
  | some fields => fields.toList.flatMap fun (_, items) => items.map Grant.ofItem
  | none => []

end Store

end AccessControl
