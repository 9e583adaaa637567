import AccessControl.Toml.Number

/-!
# Dates and times in TOML

A moment is a date, a time of day, or both, and then perhaps an offset from universal time. Every
part has a fixed number of digits and a range; the number of days of February depends on the year.
What moment it is, is of no interest here.
-/

set_option autoImplicit false

namespace AccessControl.Toml

/-- So many digits, with a value in a range. -/
def part (digits least most : Nat) : Scan Nat := do
  let n := Text.valueIn 10 (← Scan.times digits (Text.isDigitIn 10))
  Scan.guard (least ≤ n && n ≤ most)
  return n

/-- The number of days of a month. -/
def daysIn (year month : Nat) : Nat :=
  let leap := year % 4 == 0 && (year % 100 != 0 || year % 400 == 0)
  match month with
  | 2 => if leap then 29 else 28
  | 4 | 6 | 9 | 11 => 30
  | _ => 31

/-- A date. -/
def date : Scan Unit := do
  let year ← part 4 0 9999
  Scan.char '-'
  let month ← part 2 1 12
  Scan.char '-'
  discard (part 2 1 (daysIn year month))

/-- A time of day, to the second or a fraction of it. -/
def time : Scan Unit := do
  discard (part 2 0 23)
  Scan.char ':'
  discard (part 2 0 59)
  Scan.char ':'
  discard (part 2 0 60)
  discard (Scan.optional do
    Scan.char '.'
    discard (Scan.next (Text.isDigitIn 10))
    discard (Scan.takeWhile (Text.isDigitIn 10)))

/-- An offset from universal time. -/
def offset : Scan Unit :=
  discard (Scan.next fun c => c == 'Z' || c == 'z') <|> do
    discard (Scan.next fun c => c == '+' || c == '-')
    discard (part 2 0 23)
    Scan.char ':'
    discard (part 2 0 59)

/-- A date, a time of day, or both. -/
def moment : Scan Unit :=
  (do
    date
    discard (Scan.optional do
      discard (Scan.next fun c => c == 'T' || c == 't' || c == ' ')
      time
      discard (Scan.optional offset)))
    <|> time

end AccessControl.Toml
