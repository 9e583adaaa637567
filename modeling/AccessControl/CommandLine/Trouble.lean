import AccessControl.CommandLine.Host
import AccessControl.CommandLine.Request
import AccessControl.Document.Policy

/-!
# What can go wrong in a command

Each trouble is reported as a chain of messages: what could not be done, and below it why.
-/

set_option autoImplicit false

namespace AccessControl.CommandLine

/-- Why a command does not come to a result. -/
inductive Trouble where
  /-- The configuration cannot be read. -/
  | configUnread (path : String) (fault : ReadFault)
  /-- The configuration is not well formed. -/
  | configMalformed (path : String)
  | output (e : UnknownOutput)
  | operation (e : InvalidOperation)
  | role (e : InvalidRole)
  /-- The policy cannot be read. -/
  | policyUnread (path : String) (fault : ReadFault)
  /-- The policy to decide by cannot be used. -/
  | policyUnusable (path : String) (fault : Policy.LoadFault)
  /-- The policy to inspect is not in order. -/
  | policyInvalid (fault : Policy.LoadFault)
deriving DecidableEq, Repr

/-- The messages of a trouble, the outermost first. -/
def Trouble.messages : Trouble → List String
  | .configUnread path fault => ["failed to read config file: " ++ Text.quote path, fault.message]
  | .configMalformed path => ["failed to parse config file: " ++ Text.quote path]
  | .output e => [e.message]
  | .operation e => [e.message]
  | .role e => [e.message]
  | .policyUnread path fault => ["failed to read policy file: " ++ Text.quote path, fault.message]
  | .policyUnusable path fault =>
    ("failed to load policy file: " ++ Text.quote path) :: fault.messages
  | .policyInvalid fault => "invalid policy" :: fault.messages

end AccessControl.CommandLine
