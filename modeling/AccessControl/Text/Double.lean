/-!
# The range of doubles

Two questions about 64-bit floating-point numbers that have exact answers without any floating-point
arithmetic: what a natural number is rounded to, and whether a decimal number is so large that it is
rounded to infinity. The latter is the case from half a unit above the largest finite double
onwards.
-/

set_option autoImplicit false

namespace AccessControl.Text.Double

/-- The nearest number with at most 53 significant bits, a tie going to the even neighbour. -/
def round53 (n : Nat) : Nat :=
  let low := n.log2 + 1 - 53
  if low = 0 then n
  else
    let unit := Nat.pow 2 low
    let kept := n / unit
    let left := n % unit
    let up := decide (unit < 2 * left) || (unit == 2 * left && kept % 2 == 1)
    (if up then kept + 1 else kept) * unit

/-- The least number that is rounded to infinity. -/
def infinity : Nat := Nat.pow 2 1024 - Nat.pow 2 970

/-- The number of decimal places that `infinity` has. -/
def infinityPlaces : Nat := 309

/-- Whether `m * 10 ^ power` is rounded to infinity. Where the number of places alone tells, no
power is computed. -/
def overflows (m : Nat) (power : Int) : Bool :=
  if m = 0 then false
  else
    let places : Int := (Nat.toDigits 10 m).length + power
    if infinityPlaces < places then true
    else if places < infinityPlaces then false
    else if 0 ≤ power then decide (infinity ≤ m * Nat.pow 10 power.toNat)
    else decide (infinity * Nat.pow 10 (-power).toNat ≤ m)

end AccessControl.Text.Double
