/-!
# Replacing a pattern

`replaceAll` goes through a text from left to right and puts a replacement where the pattern stands.
Occurrences do not overlap, and what was put in is not looked at again.
-/

set_option autoImplicit false

namespace AccessControl.Text

/-- Replaces a pattern in what is left of a text, the first `skip` characters of which belong to an
occurrence that has been replaced already. -/
def replaceFrom (pattern replacement : List Char) : Nat → List Char → List Char
  | _, [] => []
  | skip + 1, _ :: rest => replaceFrom pattern replacement skip rest
  | 0, c :: rest =>
    if pattern.isPrefixOf (c :: rest) then
      replacement ++ replaceFrom pattern replacement (pattern.length - 1) rest
    else c :: replaceFrom pattern replacement 0 rest

/-- Replaces every occurrence of a pattern that is not empty. -/
def replaceAll (pattern replacement text : List Char) : List Char :=
  replaceFrom pattern replacement 0 text

end AccessControl.Text
