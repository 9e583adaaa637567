/-!
# Decimal numerals for 64-bit identifiers

People and stores write identifiers as decimal text. A numeral is an optional plus sign and at least
one ASCII digit; leading zeros are allowed, a minus sign is not. Reading goes from left to right and
stops at the first thing that is wrong, so of a stray character and a value that has outgrown
64 bits the one that comes first is the one reported.
-/

set_option autoImplicit false

namespace AccessControl.Text

/-- Why a text is not a numeral. -/
inductive NumeralFault where
  /-- There is nothing to read. -/
  | empty
  /-- A character is not a digit, or a sign stands alone. -/
  | badDigit
  /-- The value does not fit in 64 bits. -/
  | tooLarge
deriving DecidableEq, Repr

/-- The wording of each fault. -/
def NumeralFault.message : NumeralFault → String
  | .empty => "cannot parse integer from empty string"
  | .badDigit => "invalid digit found in string"
  | .tooLarge => "number too large to fit in target type"

/-- The value of an ASCII digit. -/
def digit? (c : Char) : Option Nat :=
  if c.isDigit then some (c.toNat - '0'.toNat) else none

/-- The value of a hexadecimal digit of either case. -/
def hexDigit? (c : Char) : Option Nat :=
  if c.isDigit then some (c.toNat - '0'.toNat)
  else if 'a' ≤ c && c ≤ 'f' then some (c.toNat - 'a'.toNat + 10)
  else if 'A' ≤ c && c ≤ 'F' then some (c.toNat - 'A'.toNat + 10)
  else none

/-- Whether a character is a digit in a base up to sixteen. -/
def isDigitIn (base : Nat) (c : Char) : Bool := (hexDigit? c).any (· < base)

/-- The value of digits in a base up to sixteen, in reading order. -/
def valueIn (base : Nat) (digits : List Char) : Nat :=
  digits.foldl (fun n c => n * base + (hexDigit? c).getD 0) 0

/-- The value of decimal digits in reading order. -/
def digitsValue (digits : List Nat) : Nat := digits.foldl (fun n d => n * 10 + d) 0

/-- One more than the largest identifier: two to the power 64. -/
def wordLimit : Nat := 18446744073709551616

/-- One more than the largest integer that has 64 bits with its sign: two to the power 63. -/
def signedLimit : Nat := 9223372036854775808

/-- Continues a numeral whose digits so far have the given value. -/
def readDigits : Nat → List Char → Except NumeralFault Nat
  | value, [] => .ok value
  | value, c :: rest =>
    match digit? c with
    | none => .error .badDigit
    | some d =>
      if value * 10 + d < wordLimit then readDigits (value * 10 + d) rest else .error .tooLarge

/-- Reads a whole text as a numeral below `2 ^ 64`. -/
def readNumeral : List Char → Except NumeralFault Nat
  | [] => .error .empty
  | ['+'] => .error .badDigit
  | '+' :: digits => readDigits 0 digits
  | digits => readDigits 0 digits

/-- The identifier that a text denotes. -/
def readWord (s : String) : Except NumeralFault UInt64 :=
  (readNumeral s.toList).map UInt64.ofNat

/-- The decimal digits of an identifier, without leading zeros. -/
def wordText (n : UInt64) : String := toString n.toNat

end AccessControl.Text
