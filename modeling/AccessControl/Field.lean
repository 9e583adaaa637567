import AccessControl.Text.Blank
import AccessControl.Text.Numeral
import Std.Data.ExtTreeMap

/-!
# Stored field values

A store keeps a grant as an item: a few named values whose types depend on where they were stored.
A flag may be `1`, `true` or the text `"1"`; an identifier may be a number or its digits. Items keep
the values as they are, and `asFlag` and `asId` say what a value means where a flag or an identifier
is wanted.
-/

set_option autoImplicit false

namespace AccessControl

/-- One stored value. -/
inductive FieldValue where
  /-- Nothing. -/
  | null
  | bool (b : Bool)
  | int (i : Int64)
  | text (s : String)
deriving DecidableEq, Repr, Inhabited

namespace FieldValue

/-- Whether a value counts as a set flag: true, any integer but zero, and the texts `1` and `true`,
with blank characters around them or not. -/
def asFlag : FieldValue → Bool
  | .null => false
  | .bool b => b
  | .int i => i != 0
  | .text s => Text.trim s.toList ∈ [['1'], ['t', 'r', 'u', 'e']]

/-- The identifier that a value stands for: an integer that is not negative, or a numeral with blank
characters around it or not. -/
def asId : FieldValue → Option UInt64
  | .null | .bool _ => none
  | .int i => if i < 0 then none else some (UInt64.ofNat i.toInt.toNat)
  | .text s => ((Text.readNumeral (Text.trim s.toList)).toOption).map UInt64.ofNat

end FieldValue

/-- The named values that make up one item of a field. -/
abbrev FieldItem := Std.ExtTreeMap String FieldValue

namespace FieldItem

/-- Whether a named value is a set flag. A missing one is not. -/
def flag (item : FieldItem) (key : String) : Bool :=
  match item[key]? with
  | some v => v.asFlag
  | none => false

end FieldItem

end AccessControl
