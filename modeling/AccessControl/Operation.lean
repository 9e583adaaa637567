/-!
# Operations

What a subject may ask to do with a resource. The names are lower case and are matched exactly.
-/

set_option autoImplicit false

namespace AccessControl

/-- An operation on a resource. -/
inductive Operation where
  | view
  | update
  | delete
  /-- Making a resource of the same bundle. -/
  | create
deriving DecidableEq, Repr, Inhabited

namespace Operation

/-- All operations. -/
def all : List Operation := [.view, .update, .delete, .create]

/-- The name of an operation. -/
def name : Operation → String
  | .view => "view"
  | .update => "update"
  | .delete => "delete"
  | .create => "create"

/-- The operation with a given name. -/
def ofName? (name : String) : Option Operation := all.find? (·.name == name)

end Operation

/-- A name that was given as an operation and is none. -/
structure InvalidOperation where
  name : String
deriving DecidableEq, Repr

/-- The name as it was given. -/
def InvalidOperation.message (e : InvalidOperation) : String := "invalid operation: " ++ e.name

/-- Reads the name of an operation. -/
def Operation.parse (name : String) : Except InvalidOperation Operation :=
  match ofName? name with
  | some op => .ok op
  | none => .error ⟨name⟩

end AccessControl
