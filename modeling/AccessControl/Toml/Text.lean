import AccessControl.Text.Numeral
import AccessControl.Toml.Scan

/-!
# Texts in TOML

A text is written in one of four ways: between single or triple quotes, which may be double quotes
or apostrophes. Between double quotes a backslash starts an escape; between apostrophes every
character stands for itself. A text between triple quotes may run over several lines, of which an
empty first one is dropped; each of its line ends is a line feed, and it may hold one or two quotes
in a row, also just before the closing ones.
-/

set_option autoImplicit false

namespace AccessControl.Toml

/-- Whether a character may stand in a text as it is: all but the control characters, the tab
excepted. -/
def isTextChar (c : Char) : Bool := isCommentChar c

/-- A character given by its code point in so many hexadecimal digits. -/
def codePoint (digits : Nat) : Scan Char := do
  let n := Text.valueIn 16 (← Scan.times digits (Text.isDigitIn 16))
  Scan.guard (decide (n.isValidChar))
  return Char.ofNat n

/-- A backslash and what it makes of the characters after it. -/
def escape : Scan Char := do
  Scan.char '\\'
  match ← Scan.next fun _ => true with
  | 'b' => return '\x08'
  | 't' => return '\t'
  | 'n' => return '\n'
  | 'f' => return '\x0c'
  | 'r' => return '\r'
  | '"' => return '"'
  | '\\' => return '\\'
  | 'u' => codePoint 4
  | 'U' => codePoint 8
  | _ => failure

/-- A text between double quotes, in one line. -/
def basicText : Scan String := do
  Scan.char '"'
  let cs ← Scan.many (Scan.next (fun c => isTextChar c && c != '"' && c != '\\') <|> escape)
  Scan.char '"'
  return String.ofList cs

/-- A text between apostrophes, in one line. -/
def literalText : Scan String := do
  Scan.char '\''
  let cs ← Scan.takeWhile fun c => isTextChar c && c != '\''
  Scan.char '\''
  return String.ofList cs

/-! ## Texts of several lines -/

/-- A backslash at the end of a line, which joins it to what follows the blanks and line ends. -/
def joinedLines : Scan Unit := do
  Scan.char '\\'
  blanks
  newLine
  discard (Scan.many (discard (Scan.next isBlank) <|> newLine))

/-- One or two quotes that belong to the text, because another character follows them. -/
def innerQuotes (quote : Char) : Scan (List Char) := fun cs =>
  match cs with
  | a :: b :: c :: rest =>
    if a == quote && b != quote then some ([quote], b :: c :: rest)
    else if a == quote && b == quote && c != quote then some ([quote, quote], c :: rest)
    else none
  | _ => none

/-- The closing quotes, and one or two that belong to the text before them. -/
def closingQuotes (quote : Char) : Scan (List Char) := do
  let run ← Scan.takeWhile (· == quote)
  Scan.guard (3 ≤ run.length && run.length ≤ 5)
  return run.drop 3

/-- One line end, which counts as a line feed. -/
def lineFeed : Scan (List Char) := do
  newLine
  return ['\n']

/-- A text between triple double quotes. -/
def basicLines : Scan String := do
  Scan.word ['"', '"', '"']
  discard (Scan.optional newLine)
  let parts ← Scan.many <|
    (do return [← Scan.next fun c => isTextChar c && c != '"' && c != '\\'])
      <|> (do joinedLines; return [])
      <|> (do return [← escape])
      <|> lineFeed
      <|> innerQuotes '"'
  let last ← closingQuotes '"'
  return String.ofList (parts.flatten ++ last)

/-- A text between triple apostrophes. -/
def literalLines : Scan String := do
  Scan.word ['\'', '\'', '\'']
  discard (Scan.optional newLine)
  let parts ← Scan.many <|
    (do return [← Scan.next fun c => isTextChar c && c != '\''])
      <|> lineFeed
      <|> innerQuotes '\''
  let last ← closingQuotes '\''
  return String.ofList (parts.flatten ++ last)

/-- A text in any way of writing. -/
def text : Scan String := basicLines <|> basicText <|> literalLines <|> literalText

end AccessControl.Toml
