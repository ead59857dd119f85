import Tocsin.Text.Ranges

/-!
# White space

`isBlank` is the White_Space property of Unicode; numerals are trimmed of it.  `isSpacing` also
counts the four information separators U+001C to U+001F, which the headers of replies and the lines
of an environment file take for space.  `trim` cuts a class of characters off both ends.
-/

set_option autoImplicit false

namespace Tocsin.Text

/-- The White_Space property. -/
def blankRanges : List (Nat × Nat) :=
  [(0x9, 0xd), (0x20, 0x20), (0x85, 0x85), (0xa0, 0xa0), (0x1680, 0x1680), (0x2000, 0x200a),
   (0x2028, 0x2029), (0x202f, 0x202f), (0x205f, 0x205f), (0x3000, 0x3000)]

/-- Whether the character is white space. -/
def isBlank (c : Char) : Bool := inRanges blankRanges c.toNat

/-- Whether the character is white space or an information separator. -/
def isSpacing (c : Char) : Bool := isBlank c || (0x1c ≤ c.toNat && c.toNat ≤ 0x1f)

/-- Cuts the characters of a class off the end of a text. -/
def trimRight (p : Char → Bool) (cs : List Char) : List Char :=
  (cs.reverse.dropWhile p).reverse

/-- Cuts the characters of a class off both ends of a text. -/
def trim (p : Char → Bool) (cs : List Char) : List Char :=
  trimRight p (cs.dropWhile p)

end Tocsin.Text
