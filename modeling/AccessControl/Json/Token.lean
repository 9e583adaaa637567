import AccessControl.Json.Basic
import AccessControl.Text.Numeral

/-!
# The tokens of a JSON text

`Token.scan` cuts a text into brackets, separators, words, numbers and string literals. It reads one
character at a time in a *mode* that says what the characters before it have begun, so the scan is a
fold over the text. A character that no token allows becomes the token `bad`, and nothing after it
is looked at.

A string literal is spelled in characters and in `\uXXXX` units of sixteen bits. Two units make one
character when they are a high surrogate and a low one in this order; a surrogate outside such a
pair leaves the literal well formed but without a text.
-/

set_option autoImplicit false

namespace AccessControl.Json

/-- A piece of a JSON text. -/
inductive Token where
  | openArray | closeArray | openObject | closeObject | comma | colon
  | null
  | bool (b : Bool)
  | integer (i : Int)
  | decimal (d : Decimal)
  /-- A string literal. Where it is a value, the key it would make is of use only for its text. -/
  | string (key : Key)
  /-- A place where the text stops being JSON. -/
  | bad
deriving DecidableEq, Repr, Inhabited

/-! ## String literals -/

/-- What a string literal has spelled so far. -/
structure Spelling where
  /-- The characters, last first; `none` once a surrogate has stood alone. -/
  done : Option (List Char) := some []
  /-- A high surrogate that waits for its low one. -/
  high : Option Nat := none
  /-- Whether there was no escape. -/
  plain : Bool := true
deriving DecidableEq, Repr, Inhabited

namespace Spelling

/-- Adds a character that stands for itself. -/
def char (s : Spelling) (c : Char) : Spelling :=
  match s.high with
  | none => { s with done := s.done.map (c :: ·) }
  | some _ => { s with done := none, high := none }

/-- Adds a character that is given by a letter after a backslash. -/
def escaped (s : Spelling) (c : Char) : Spelling := { s.char c with plain := false }

/-- Adds a unit given by its hexadecimal digits. -/
def unit (s : Spelling) (u : Nat) : Spelling :=
  let isLow := 0xDC00 ≤ u && u ≤ 0xDFFF
  let isHigh := 0xD800 ≤ u && u ≤ 0xDBFF
  match s.high with
  | some h =>
    let c := Char.ofNat (0x10000 + (h - 0xD800) * 0x400 + (u - 0xDC00))
    { done := if isLow then s.done.map (c :: ·) else none, plain := false }
  | none =>
    if isHigh then { s with high := some u, plain := false }
    else if isLow then { done := none, plain := false }
    else { done := s.done.map (Char.ofNat u :: ·), plain := false }

/-- The literal that ends here. -/
def close (s : Spelling) : Key where
  text := if s.high.isSome then none else s.done.map fun cs => String.ofList cs.reverse
  plain := s.plain

end Spelling

/-- The character that a backslash and a letter stand for. -/
def escaped? : Char → Option Char
  | '"' => some '"'
  | '\\' => some '\\'
  | '/' => some '/'
  | 'b' => some '\x08'
  | 'f' => some '\x0c'
  | 'n' => some '\n'
  | 'r' => some '\r'
  | 't' => some '\t'
  | _ => none

/-! ## The scanner -/

/-- What the characters read so far have begun. Digits are kept last first. -/
inductive Mode where
  /-- Between two tokens. -/
  | between
  /-- In a word, with the letters that must still come. -/
  | word (rest : List Char) (token : Token)
  /-- In a string literal. -/
  | literal (s : Spelling)
  /-- After a backslash. -/
  | escape (s : Spelling)
  /-- In a `\uXXXX` unit with so many digits still to come. -/
  | unit (s : Spelling) (left : Nat) (value : Nat)
  /-- After a minus sign. -/
  | minus
  /-- In the digits before the point. -/
  | whole (negative : Bool) (digits : List Nat)
  /-- After the point, in zero or more digits. -/
  | fraction (negative : Bool) (whole : List Nat) (digits : List Nat)
  /-- After the letter that starts an exponent. -/
  | exponentMark (d : Decimal)
  /-- In the digits of an exponent, of which there are none yet after a sign. -/
  | exponent (d : Decimal) (negative : Bool) (digits : List Nat)
  /-- After a fault. -/
  | stopped
deriving DecidableEq, Repr, Inhabited

namespace Mode

/-- The number without a fraction that has the given sign and digits. A zero with a minus sign is no
integer. -/
def wholeToken (negative : Bool) (digits : List Nat) : Token :=
  let n := Text.digitsValue digits.reverse
  if negative then
    if n = 0 then .decimal { negative, whole := [0], fraction := [], exponent := none }
    else .integer (-n)
  else .integer n

/-- The tokens and the mode that follow from a character after a finished token. -/
def start (c : Char) : List Token × Mode :=
  match c with
  | ' ' | '\t' | '\n' | '\r' => ([], .between)
  | '[' => ([.openArray], .between)
  | ']' => ([.closeArray], .between)
  | '{' => ([.openObject], .between)
  | '}' => ([.closeObject], .between)
  | ',' => ([.comma], .between)
  | ':' => ([.colon], .between)
  | '"' => ([], .literal {})
  | '-' => ([], .minus)
  | 'n' => ([], .word ['u', 'l', 'l'] .null)
  | 't' => ([], .word ['r', 'u', 'e'] (.bool true))
  | 'f' => ([], .word ['a', 'l', 's', 'e'] (.bool false))
  | c =>
    match Text.digit? c with
    | some d => ([], .whole false [d])
    | none => ([.bad], .stopped)

/-- A token that ends before a character, and what that character starts. -/
def emitBefore (t : Token) (c : Char) : List Token × Mode :=
  let (tokens, mode) := start c
  (t :: tokens, mode)

/-- Refuses a character. -/
def refuse : List Token × Mode := ([.bad], .stopped)

/-- The tokens that a character completes, and the mode after it. -/
def step (m : Mode) (c : Char) : List Token × Mode :=
  match m with
  | .between => start c
  | .word (r :: rest) t =>
    if c = r then if rest = [] then ([t], .between) else ([], .word rest t) else refuse
  | .word [] _ => refuse
  | .literal s =>
    if c = '"' then ([.string s.close], .between)
    else if c = '\\' then ([], .escape s)
    else if c.toNat < 0x20 then refuse
    else ([], .literal (s.char c))
  | .escape s =>
    if c = 'u' then ([], .unit s 4 0)
    else match escaped? c with
      | some e => ([], .literal (s.escaped e))
      | none => refuse
  | .unit s left value =>
    match Text.hexDigit? c with
    | some h =>
      if left ≤ 1 then ([], .literal (s.unit (value * 16 + h)))
      else ([], .unit s (left - 1) (value * 16 + h))
    | none => refuse
  | .minus =>
    match Text.digit? c with
    | some d => ([], .whole true [d])
    | none => refuse
  | .whole negative digits =>
    match Text.digit? c with
    | some d => if digits = [0] then refuse else ([], .whole negative (d :: digits))
    | none =>
      if c = '.' then ([], .fraction negative digits [])
      else if c = 'e' || c = 'E' then
        ([], .exponentMark ⟨negative, digits.reverse, [], none⟩)
      else emitBefore (wholeToken negative digits) c
  | .fraction negative before digits =>
    match Text.digit? c with
    | some d => ([], .fraction negative before (d :: digits))
    | none =>
      if digits = [] then refuse
      else
        let d : Decimal := ⟨negative, before.reverse, digits.reverse, none⟩
        if c = 'e' || c = 'E' then ([], .exponentMark d) else emitBefore (.decimal d) c
  | .exponentMark d =>
    if c = '+' then ([], .exponent d false [])
    else if c = '-' then ([], .exponent d true [])
    else match Text.digit? c with
      | some x => ([], .exponent d false [x])
      | none => refuse
  | .exponent d negative digits =>
    match Text.digit? c with
    | some x => ([], .exponent d negative (x :: digits))
    | none =>
      if digits = [] then refuse
      else emitBefore (.decimal { d with exponent := some (negative, digits.reverse) }) c
  | .stopped => ([], .stopped)

/-- The tokens that the end of the text completes. -/
def finish : Mode → List Token
  | .between | .stopped => []
  | .whole negative digits => [wholeToken negative digits]
  | .fraction negative before (d :: digits) =>
    [.decimal ⟨negative, before.reverse, (d :: digits).reverse, none⟩]
  | .exponent d negative (x :: digits) =>
    [.decimal { d with exponent := some (negative, (x :: digits).reverse) }]
  | _ => [.bad]

end Mode

/-- A scan in progress: the tokens found, last first, and the mode. -/
structure Scanner where
  found : List Token := []
  mode : Mode := .between

/-- Reads one character. -/
def Scanner.step (s : Scanner) (c : Char) : Scanner :=
  let (tokens, mode) := s.mode.step c
  { found := tokens.reverse ++ s.found, mode }

/-- The tokens of a text, up to the first character that is out of place. -/
def Token.scan (cs : List Char) : List Token :=
  let s := cs.foldl Scanner.step {}
  s.found.reverse ++ s.mode.finish

end AccessControl.Json
