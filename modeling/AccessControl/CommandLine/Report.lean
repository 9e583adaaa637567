import AccessControl.Document.Decision
import AccessControl.Document.Subject
import AccessControl.Json.Printer
import AccessControl.Policy.Environment

/-!
# What commands print

Results for people are lines of text; those for programs are indented JSON, whose members come in
the order in which they are listed here.
-/

set_option autoImplicit false

namespace AccessControl.CommandLine

/-- Lines of text. -/
def lines (ls : List String) : String := String.join (ls.map (· ++ "\n"))

/-- The report of a check. Groups are left out if there are none. -/
def checkReport (s : Subject) (groups : List GroupId) (r : Resource) (op : Operation)
    (d : Decision) : Json :=
  .record <|
    [("subject", .ofOption Json.id s.id)]
      ++ (if groups.isEmpty then [] else [("groups", .list (groups.map Json.id))])
      ++ [("resource", .text r.cacheTag), ("operation", op.toJson)]
      ++ d.members

/-- The line of a check. -/
def checkLine (r : Resource) (op : Operation) (d : Decision) : String :=
  r.cacheTag ++ " " ++ op.name ++ ": " ++ d.text

/-- What is said of a policy that is in order. -/
def policySummary (p : Policy) : String :=
  let counts := [(p.roles.size, "roles"), (p.groups.size, "groups"), (p.bundles.size, "bundles"),
    (p.entries.length, "resources")]
  "Policy is valid ("
    ++ ", ".intercalate (counts.map fun (count, noun) => toString count ++ " " ++ noun) ++ ")"

/-- Each role with its permissions under it. -/
def roleLines (p : Policy) : List String :=
  p.roles.keys.flatMap fun role =>
    role.name :: (Registry.permissionsOf p.registry role).map ("  " ++ ·)

end AccessControl.CommandLine
