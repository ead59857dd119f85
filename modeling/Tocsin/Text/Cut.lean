/-!
# Cutting texts

A text is cut at the first or the last place where a character stands, or at every such place.  The
character itself belongs to neither side.
-/

set_option autoImplicit false

namespace Tocsin.Text

/-- Cuts a text at the first `c`; where there is none, nothing stands behind the cut. -/
def cutFirst (c : Char) : List Char → List Char × Option (List Char)
  | [] => ([], none)
  | d :: cs =>
    if d = c then ([], some cs)
    else
      let (front, back) := cutFirst c cs
      (d :: front, back)

/-- What stands before the first `c`, or the whole text. -/
def beforeFirst (c : Char) (cs : List Char) : List Char := cs.takeWhile (· ≠ c)

/-- What stands behind the last `c`, or the whole text. -/
def afterLast (c : Char) (cs : List Char) : List Char :=
  (cs.reverse.takeWhile (· ≠ c)).reverse

/-- What stands before the last `c`; none when there is no `c`. -/
def beforeLast? (c : Char) (cs : List Char) : Option (List Char) :=
  match cs.reverse.dropWhile (· ≠ c) with
  | [] => none
  | _ :: rest => some rest.reverse

/-- The pieces of a text between the characters `c`, at least one. -/
def splitAt (c : Char) : List Char → List (List Char)
  | [] => [[]]
  | d :: cs =>
    if d = c then [] :: splitAt c cs
    else
      match splitAt c cs with
      | [] => [[d]]
      | piece :: pieces => (d :: piece) :: pieces

/-- Pieces with a separator between them. -/
def joinWith (separator : List Char) : List (List Char) → List Char
  | [] => []
  | [piece] => piece
  | piece :: pieces => piece ++ separator ++ joinWith separator pieces

end Tocsin.Text
