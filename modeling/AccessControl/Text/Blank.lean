/-!
# Blank characters and trimming

A character is *blank* when it has the Unicode property `White_Space`. The set is small and closed,
so it is written out; it is larger than the ASCII set, and smaller than what is loosely called
white space: the zero-width characters are not in it, and neither are the four separators below the
space (`U+001C` to `U+001F`).

`trim` takes blank characters off both ends and touches nothing between.
-/

set_option autoImplicit false

namespace AccessControl.Text

/-- Whether a character is white space. -/
def isBlank (c : Char) : Bool :=
  let n := c.toNat
  (0x9 ≤ n && n ≤ 0xD) || n == 0x20 || n == 0x85 || n == 0xA0 || n == 0x1680 ||
    (0x2000 ≤ n && n ≤ 0x200A) || n == 0x2028 || n == 0x2029 || n == 0x202F || n == 0x205F ||
    n == 0x3000

/-- The characters without the blank ones at either end. -/
def trim (cs : List Char) : List Char :=
  ((cs.dropWhile isBlank).reverse.dropWhile isBlank).reverse

/-- Whether a text has no character but blank ones. -/
def isBlankText (s : String) : Bool := s.toList.all isBlank

end AccessControl.Text
