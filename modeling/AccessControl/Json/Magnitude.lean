import AccessControl.Json.Basic
import AccessControl.Text.Double
import AccessControl.Text.Numeral

/-!
# Which numbers are within the range of a double

A number that is read in full has to be representable as a 64-bit floating-point number, at least
roughly: reading works with a significand of at most 64 bits and a power of ten. It keeps the
leading digits of the number as long as they fit, lets every later digit before the point raise the
exponent, and multiplies by a power of ten that is at most `10 ^ 308`. The number is out of range
when that product rounds to infinity.

Both factors are rounded to doubles before they are multiplied.
-/

set_option autoImplicit false

namespace AccessControl

namespace Magnitude

/-- Takes digits into a significand while it stays below `2 ^ 64`, and hands back the rest. -/
def absorb : Nat → List Nat → Nat × List Nat
  | s, [] => (s, [])
  | s, d :: rest => if s * 10 + d < Text.wordLimit then absorb (s * 10 + d) rest else (s, d :: rest)

/-- The largest power of ten that one multiplication may use. -/
def largestPower : Nat := 308

/-- One more than the largest exponent that is read as a number: two to the power 31. -/
def exponentLimit : Nat := 2147483648

/-- Whether a significand times a power of ten is within range. -/
def fits (significand : Nat) (power : Int) : Bool :=
  if power ≤ 0 then true
  else if power ≤ largestPower then
    decide (Text.Double.round53 significand * Text.Double.round53 (Nat.pow 10 power.toNat)
      < Text.Double.infinity)
  else significand == 0

end Magnitude

open Magnitude

/-- Whether a number is within the range of a double. An exponent beyond 31 bits decides alone. -/
def Decimal.inRange (d : Decimal) : Bool :=
  let (s, excess) := absorb 0 d.whole
  let (s, unread) := absorb s d.fraction
  let scale : Int := excess.length - (d.fraction.length - unread.length : Nat)
  match d.exponent with
  | none => fits s scale
  | some (down, digits) =>
    let e := Text.digitsValue digits
    if e < exponentLimit then fits s (if down then scale - e else scale + e) else down || s == 0

/-- Whether an integer is within the range of a double. -/
def Decimal.intInRange (i : Int) : Bool :=
  let digits := (Nat.toDigits 10 i.natAbs).map fun c => c.toNat - '0'.toNat
  ({ negative := false, whole := digits, fraction := [], exponent := none } : Decimal).inRange

namespace Json

/-- Whether a value can be read in full: its text does not break inside it, every string has a text,
every number is within range, and no more than `depth` brackets are open at once. -/
def isReadable : Nat → Json → Bool
  | _, .null | _, .bool _ => true
  | _, .integer i => Decimal.intInRange i
  | _, .decimal d => d.inRange
  | _, .string s => s.isSome
  | _, .cut => false
  | 0, .array _ _ | 0, .object _ _ => false
  | depth + 1, .array items closed => closed && items.all (isReadable depth)
  | depth + 1, .object members closed =>
    closed && members.all fun (key, value) => key.text.isSome && isReadable depth value

end Json

end AccessControl
