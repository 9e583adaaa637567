import AccessControl.Text.Printable
import AccessControl.Text.Combining

/-!
# Quoted text for messages

Error messages show a text between double quotes, so that its ends and its invisible characters can
be seen. Quotes and backslashes get a backslash; tab, line feed, carriage return and NUL have short
forms; any other character that is not printable, or that combines with the one before it, is
written as its code point in lower-case hexadecimal between braces; all others stand as they are.
-/

set_option autoImplicit false

namespace AccessControl.Text

/-- The way one character is written inside a quoted text. -/
def quoteChar (c : Char) : List Char :=
  match c with
  | '"' => ['\\', '"']
  | '\\' => ['\\', '\\']
  | '\t' => ['\\', 't']
  | '\n' => ['\\', 'n']
  | '\r' => ['\\', 'r']
  | '\x00' => ['\\', '0']
  | c =>
    if isPrintable c && !isCombining c then [c]
    else ['\\', 'u', '\x7b'] ++ Nat.toDigits 16 c.toNat ++ ['\x7d']

/-- A text between double quotes, with what cannot be seen written out. -/
def quote (s : String) : String :=
  String.ofList ('"' :: s.toList.flatMap quoteChar ++ ['"'])

end AccessControl.Text
