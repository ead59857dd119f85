import Tocsin.Text.CaseTable

/-!
# Lower case

`lower` is the full Unicode lower-casing of a text.  Every character is mapped on its own, with two
exceptions: a capital I with dot becomes an i and a combining dot, and a capital sigma at the end of
a word becomes the final form.  A sigma ends a word when the nearest character before it that is not
case-ignorable is cased and the nearest such character after it is not.
-/

set_option autoImplicit false

namespace Tocsin.Text

/-- Whether the character is a letter with a case (and not case-ignorable). -/
def isCased (c : Char) : Bool := inRanges casedRanges c.toNat

/-- Whether the search for a neighbouring letter skips the character. -/
def isCaseIgnorable (c : Char) : Bool := inRanges caseIgnorableRanges c.toNat

/-- Whether the first character that is not case-ignorable is cased. -/
def startsCased (cs : List Char) : Bool :=
  ((cs.dropWhile isCaseIgnorable).head?.map isCased).getD false

/-- The lower case of one character away from the word-final sigma rule. -/
def lowerChar (c : Char) : List Char :=
  if c.toNat = 0x130 then ['i', Char.ofNat 0x307]
  else [((shift? lowerShifts c.toNat).map Char.ofNat).getD c]

/-- Lower-cases the characters of a text; `before` is what stands to the left, nearest first. -/
def lowerFrom (before : List Char) : List Char → List Char
  | [] => []
  | c :: rest =>
    (if c.toNat = 0x3a3 ∧ startsCased before ∧ !startsCased rest then [Char.ofNat 0x3c2]
     else lowerChar c) ++ lowerFrom (c :: before) rest

/-- The lower case of a text. -/
def lowerChars (cs : List Char) : List Char := lowerFrom [] cs

/-- The lower case of a text. -/
def lower (s : String) : String := String.ofList (lowerChars s.toList)

end Tocsin.Text
