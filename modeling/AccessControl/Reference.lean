import AccessControl.Policy.Basic
import AccessControl.Text.Quoted

/-!
# References to resources

People name a resource by its bundle and number with a colon between, such as `article:7`. The
bundle is everything before the last colon, so it may hold colons itself, but it may not be empty.
The number is a numeral, so the same resource can be named in several ways; what counts is the
value.
-/

set_option autoImplicit false

namespace AccessControl

/-- A resource as named by someone. -/
structure Reference where
  bundle : String
  id : ResourceId
deriving DecidableEq, Repr

namespace Reference

/-- Why a text names no resource. -/
inductive Fault where
  /-- There is no colon in the text. -/
  | noColon (text : String)
  /-- There is nothing before the last colon. -/
  | emptyBundle
  /-- What follows the last colon is no number. -/
  | badId (text : String) (fault : Text.NumeralFault)
deriving DecidableEq, Repr

/-- The wording of each fault. -/
def Fault.message : Fault → String
  | .noColon text => "expected bundle:id, got " ++ Text.quote text
  | .emptyBundle => "bundle cannot be empty"
  | .badId text fault => "invalid resource id " ++ Text.quote text ++ ": " ++ fault.message

/-- The parts before and after the last colon. -/
def splitLast : List Char → Option (List Char × List Char)
  | [] => none
  | c :: rest =>
    match splitLast rest with
    | some (before, after) => some (c :: before, after)
    | none => if c = ':' then some ([], rest) else none

/-- Reads a reference. -/
def parse (text : String) : Except Fault Reference :=
  match splitLast text.toList with
  | none => .error (.noColon text)
  | some ([], _) => .error .emptyBundle
  | some (bundle, id) =>
    match Text.readNumeral id with
    | .ok n => .ok { bundle := String.ofList bundle, id := ⟨UInt64.ofNat n⟩ }
    | .error fault => .error (.badId (String.ofList id) fault)

/-- Writes a reference, without a sign or leading zeros. -/
def text (r : Reference) : String := r.bundle ++ ":" ++ r.id.text

/-- The resource that is meant: the declared one, or a plain one if none is declared. -/
def resolve (r : Reference) (p : Policy) : Resource :=
  (p.resource? r.bundle r.id).getD (Resource.plain r.id r.bundle)

/-- The resource that is meant, for a reference that no text may have given: one that is not declared
has to have a bundle. -/
def locate (r : Reference) (p : Policy) : Except ResourceFault Resource :=
  match p.resource? r.bundle r.id with
  | some resource => .ok resource
  | none => Resource.create r.id r.bundle

end Reference

end AccessControl
