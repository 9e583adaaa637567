/-!
# Scanning a text

A `Scan` takes characters off the front of a text and yields a value, or fails and takes nothing.
The few combinators here are those that the grammar of TOML is written with.
-/

set_option autoImplicit false

namespace AccessControl.Toml

/-- A reader of the front of a text. -/
abbrev Scan (α : Type) := StateT (List Char) Option α

namespace Scan

variable {α : Type}

/-- The next character, which is not taken. -/
def peek : Scan (Option Char) := fun cs => some (cs.head?, cs)

/-- The next character, if it is of a kind. -/
def next (p : Char → Bool) : Scan Char
  | [] => none
  | c :: rest => if p c then some (c, rest) else none

/-- A given character. -/
def char (c : Char) : Scan Unit := discard (next (· == c))

/-- Given characters, one after another. -/
def word (w : List Char) : Scan Unit := w.forM char

/-- All characters up to the first that is not of a kind. -/
def takeWhile (p : Char → Bool) : Scan (List Char) := fun cs =>
  some (cs.takeWhile p, cs.dropWhile p)

/-- A given number of characters of a kind. -/
def times (n : Nat) (p : Char → Bool) : Scan (List Char) := (List.replicate n p).mapM next

/-- A value if there is one. -/
def optional (s : Scan α) : Scan (Option α) := (some <$> s) <|> pure none

/-- The end of the text. -/
def atEnd : Scan Unit
  | [] => some ((), [])
  | _ :: _ => none

/-- Succeeds if a condition holds. -/
def guard (condition : Bool) : Scan Unit := if condition then pure () else failure

/-- As many values as there are, each of which takes something. -/
def repeated (s : Scan α) (cs : List Char) : List α × List Char :=
  match s cs with
  | none => ([], cs)
  | some (a, rest) =>
    if rest.length < cs.length then
      let (others, rest) := repeated s rest
      (a :: others, rest)
    else ([], cs)
termination_by cs.length

/-- As many values as there are, each of which takes something. -/
def many (s : Scan α) : Scan (List α) := fun cs => some (repeated s cs)

/-- Values with separators between them, at least one. -/
def separated1 (s : Scan α) (separator : Scan Unit) : Scan (List α) := do
  return (← s) :: (← many (do separator; s))

/-- Values with separators between them. -/
def separated (s : Scan α) (separator : Scan Unit) : Scan (List α) :=
  separated1 s separator <|> pure []

end Scan

/-! ## Blanks and line ends -/

/-- A space or a tab. -/
def isBlank (c : Char) : Bool := c == ' ' || c == '\t'

/-- Blanks within a line. -/
def blanks : Scan Unit := discard (Scan.takeWhile isBlank)

/-- A line feed, with a carriage return before it or not. -/
def newLine : Scan Unit := Scan.char '\n' <|> Scan.word ['\r', '\n']

/-- Whether a character may stand in a comment: all but the control characters, the tab excepted. -/
def isCommentChar (c : Char) : Bool := c == '\t' || (0x20 ≤ c.toNat && c.toNat != 0x7F)

/-- A comment up to the end of its line. -/
def comment : Scan Unit := do
  Scan.char '#'
  discard (Scan.takeWhile isCommentChar)

/-- The end of a line, or of the text. -/
def lineEnd : Scan Unit := newLine <|> Scan.atEnd

/-- What may follow the last thing in a line. -/
def lineRest : Scan Unit := do
  blanks
  discard (Scan.optional comment)
  lineEnd

/-- Blanks, line ends and comments, in any number. -/
def spacing : Scan Unit := do
  discard (Scan.many (discard (Scan.next isBlank) <|> newLine <|> (do comment; newLine)))

end AccessControl.Toml
