import AccessControl.Resource
import AccessControl.Text.Replace

/-!
# Permission templates

The permissions that a bundle asks for may depend on the resource: `{id}` in a template stands for
the number of the resource and `{bundle}` for its bundle.
-/

set_option autoImplicit false

namespace AccessControl.Template

/-- Stands for the number of the resource. -/
def idMark : List Char := ['\x7b', 'i', 'd', '\x7d']

/-- Stands for the bundle of the resource. -/
def bundleMark : List Char := ['\x7b', 'b', 'u', 'n', 'd', 'l', 'e', '\x7d']

/-- The permission that a template asks for on a resource: first the number is filled in, then the
bundle. -/
def expand (template : String) (r : Resource) : String :=
  String.ofList <|
    Text.replaceAll bundleMark r.bundle.toList <|
      Text.replaceAll idMark r.id.text.toList template.toList

end AccessControl.Template
