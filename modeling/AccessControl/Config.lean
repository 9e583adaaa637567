/-!
# Configuration

What can be set once and for all: where the policy is, whether stock permissions are asked after the
resolver, how much is logged, and how results are printed.
-/

set_option autoImplicit false

namespace AccessControl

/-- How results are printed. -/
inductive OutputFormat where
  /-- One line for each result. -/
  | text
  /-- Indented JSON. -/
  | json
deriving DecidableEq, Repr, Inhabited

namespace OutputFormat

/-- All formats. -/
def all : List OutputFormat := [.text, .json]

/-- The name of a format. -/
def name : OutputFormat → String
  | .text => "text"
  | .json => "json"

/-- The format with a given name. -/
def ofName? (name : String) : Option OutputFormat := all.find? (·.name == name)

end OutputFormat

/-- All settings, with their defaults. -/
structure Config where
  /-- The path of the policy; without one the policy is empty. -/
  policyFile : Option String := none
  /-- Whether stock permissions are asked. -/
  defaultLayer : Bool := true
  /-- How much is logged. -/
  logLevel : String := "info"
  output : OutputFormat := .text
deriving DecidableEq, Repr

end AccessControl
