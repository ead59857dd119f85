import Tocsin.Text.Blank

/-!
# Words of headers

A header can consist of words that semicolons or spaces divide, each with a value behind an equals
sign or without one.  A value in quotation marks may contain any of the marks that divide words, and
a backslash in it makes the character behind it stand for itself.  Commas divide lists of words.
Where nothing but marks stands, nothing is read, so that every text is a header.
-/

set_option autoImplicit false

namespace Tocsin.Webhook

open Tocsin.Text

/-- A word of a header; its value is absent where there is no equals sign. -/
structure HeaderWord where
  name : List Char
  value : Option (List Char)
  deriving DecidableEq, Repr

namespace HeaderWord

/-- Whether a character ends a value that is not in quotation marks. -/
def endsValue (c : Char) : Bool := isSpacing c || c == ';' || c == ','

/-- Whether a character ends the name of a word. -/
def endsName (c : Char) : Bool := c == '=' || endsValue c

/-- What stands in quotation marks, and what follows, given the text behind the first mark; nothing
if the last mark is missing or a backslash stands at the end of a line. -/
def cutQuoted? : List Char → Option (List Char × List Char)
  | '"' :: rest => some ([], rest)
  | '\\' :: c :: rest =>
    if c = '\n' then none else (cutQuoted? rest).map fun p => (c :: p.1, p.2)
  | ['\\'] => none
  | c :: rest => (cutQuoted? rest).map fun p => (c :: p.1, p.2)
  | [] => none

/-- The value of a word, and what follows, given the text behind the equals sign.  A quotation mark
without another one belongs to the value. -/
def cutValue (cs : List Char) : List Char × List Char :=
  let cs := cs.dropWhile isSpacing
  match cs, cutQuoted? (cs.drop 1) with
  | '"' :: _, some quoted => quoted
  | _, _ => (cs.takeWhile (!endsValue ·), cs.dropWhile (!endsValue ·))

/-- The value of a word if it has one, and what follows, given the text behind the name. -/
def cutValue? (cs : List Char) : Option (List Char) × List Char :=
  match cs.dropWhile isSpacing with
  | '=' :: rest => ((cutValue rest).1, (cutValue rest).2)
  | _ => (none, cs)

/-- What follows the last quotation mark is shorter than the text. -/
theorem length_le_of_cutQuoted? {cs : List Char} {p : List Char × List Char}
    (h : cutQuoted? cs = some p) : p.2.length ≤ cs.length := by
  induction cs using cutQuoted?.induct generalizing p with
  | case1 rest =>
      cases h
      exact Nat.le_succ _
  | case2 => simp [cutQuoted?] at h
  | case3 c rest hc ih =>
      rw [cutQuoted?, if_neg hc, Option.map_eq_some_iff] at h
      obtain ⟨q, hq, rfl⟩ := h
      have hrest : q.2.length ≤ rest.length := ih hq
      exact Nat.le_add_right_of_le (Nat.le_add_right_of_le hrest)
  | case4 => cases h
  | case5 c rest hquote hslash hend ih =>
      rw [cutQuoted?.eq_4 c rest hquote hslash hend, Option.map_eq_some_iff] at h
      obtain ⟨q, hq, rfl⟩ := h
      have hrest : q.2.length ≤ rest.length := ih hq
      exact Nat.le_add_right_of_le hrest
  | case6 => cases h

/-- No more follows a value than stands behind the equals sign. -/
theorem length_cutValue_le (cs : List Char) : (cutValue cs).2.length ≤ cs.length := by
  have hspace : (cs.dropWhile isSpacing).length ≤ cs.length :=
    (List.dropWhile_sublist isSpacing).length_le
  refine Nat.le_trans ?_ hspace
  unfold cutValue
  dsimp only
  split
  · next quoted hquoted =>
      have hdrop := length_le_of_cutQuoted? hquoted
      rw [List.length_drop] at hdrop
      exact Nat.le_trans hdrop (Nat.sub_le _ _)
  · exact (List.dropWhile_sublist _).length_le

/-- No more follows a word than stands behind its name. -/
theorem length_cutValue?_le (cs : List Char) : (cutValue? cs).2.length ≤ cs.length := by
  unfold cutValue?
  split
  · next rest hrest =>
      have hspace : (cs.dropWhile isSpacing).length ≤ cs.length :=
        (List.dropWhile_sublist isSpacing).length_le
      rw [hrest] at hspace
      exact Nat.le_trans (length_cutValue_le rest) (Nat.le_of_succ_le hspace)
  · exact Nat.le_refl _

/-- The word whose name starts with a character, and what follows, given the text behind that
character. -/
def cutWord (c : Char) (cs : List Char) : HeaderWord × List Char :=
  let back := cutValue? (cs.dropWhile (!endsName ·))
  (⟨c :: cs.takeWhile (!endsName ·), back.1⟩, back.2)

/-- No more follows a word than stands behind its first character. -/
theorem length_cutWord_le (c : Char) (cs : List Char) : (cutWord c cs).2.length ≤ cs.length :=
  Nat.le_trans (length_cutValue?_le _) (List.dropWhile_sublist _).length_le

/-- What stands behind the first character of a rest is shorter than the text. -/
theorem length_lt_of_dropWhile_eq {p : Char → Bool} {cs rest : List Char} {c : Char}
    (h : cs.dropWhile p = c :: rest) : rest.length < cs.length := by
  have hle := (@List.dropWhile_sublist _ cs p).length_le
  rw [h] at hle
  exact hle

/-- A list of words as one of several; a list without words does not count. -/
def asList (words : List HeaderWord) : List (List HeaderWord) :=
  if words.isEmpty then [] else [words]

/-- The lists of words in a header, given the words of the list so far. -/
def readLists (found : List HeaderWord) (cs : List Char) : List (List HeaderWord) :=
  match _ : cs.dropWhile isSpacing with
  | [] => asList found
  | ',' :: rest => asList found ++ readLists [] rest
  | c :: rest =>
    if endsName c then readLists found rest
    else readLists (found ++ [(cutWord c rest).1]) (cutWord c rest).2
termination_by cs.length
decreasing_by
  · exact length_lt_of_dropWhile_eq ‹_›
  · exact length_lt_of_dropWhile_eq ‹_›
  · exact Nat.lt_of_le_of_lt (length_cutWord_le c rest) (length_lt_of_dropWhile_eq ‹_›)

end HeaderWord

end Tocsin.Webhook
