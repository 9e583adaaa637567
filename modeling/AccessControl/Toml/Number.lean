import AccessControl.Text.Double
import AccessControl.Text.Numeral
import AccessControl.Toml.Scan

/-!
# Numbers in TOML

Integers have 64 bits with a sign and may be written in four bases; only decimal ones have a sign. A
single underscore may stand between two digits. A floating-point number is a decimal integer with a
fraction or an exponent or both, or a name; what it is rounded to is of no interest here, only that
it must not be rounded to positive infinity unless it says so.
-/

set_option autoImplicit false

namespace AccessControl.Toml

/-- Digits in a base, with underscores between them or not. -/
def digitsIn (base : Nat) : Scan (List Char) := do
  let first ← Scan.next (Text.isDigitIn base)
  let others ← Scan.many do
    discard (Scan.optional (Scan.char '_'))
    Scan.next (Text.isDigitIn base)
  return first :: others

/-- A sign or none; true for a minus sign. -/
def sign : Scan Bool := do
  match ← Scan.optional (Scan.next fun c => c == '+' || c == '-') with
  | some '-' => return true
  | _ => return false

/-- A sign or none, and decimal digits without a leading zero. -/
def decimalInteger : Scan (Bool × List Char) := do
  let negative ← sign
  let ds ← (do
      discard (Scan.next fun c => c == '0')
      return ['0'])
    <|> digitsIn 10
  return (negative, ds)

/-- The integer of a value and a sign, if it has 64 bits. -/
def inRange (negative : Bool) (n : Nat) : Scan Int := do
  let i : Int := if negative then -n else n
  Scan.guard (-(Text.signedLimit : Int) ≤ i && i < Text.signedLimit)
  return i

/-- A zero and the letter of a base, and digits in that base. -/
def basedInteger (letter : Char) (base : Nat) : Scan Int := do
  Scan.word ['0', letter]
  inRange false (Text.valueIn base (← digitsIn base))

/-- An integer. -/
def integer : Scan Int :=
  basedInteger 'x' 16 <|> basedInteger 'o' 8 <|> basedInteger 'b' 2 <|> do
    let (negative, ds) ← decimalInteger
    inRange negative (Text.valueIn 10 ds)

/-- The digits after a point. -/
def fraction : Scan (List Char) := do
  Scan.char '.'
  digitsIn 10

/-- An exponent. -/
def exponent : Scan Int := do
  discard (Scan.next fun c => c == 'e' || c == 'E')
  let down ← sign
  let n := Text.valueIn 10 (← digitsIn 10)
  return if down then -n else n

/-- A floating-point number in digits. -/
def decimalFloat : Scan Unit := do
  let (negative, whole) ← decimalInteger
  let places ← Scan.optional fraction
  let power ← Scan.optional exponent
  Scan.guard (places.isSome || power.isSome)
  let behind := places.getD []
  let scale : Int := power.getD 0 - behind.length
  Scan.guard (negative || !Text.Double.overflows (Text.valueIn 10 (whole ++ behind)) scale)

/-- A floating-point number. -/
def float : Scan Unit :=
  decimalFloat <|> do
    discard sign
    Scan.word ['i', 'n', 'f'] <|> Scan.word ['n', 'a', 'n']

end AccessControl.Toml
