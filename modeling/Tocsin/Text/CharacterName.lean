import Tocsin.Text.CharacterName.Alphabets
import Tocsin.Text.CharacterName.Ancient
import Tocsin.Text.CharacterName.Others
import Tocsin.Text.CharacterName.Pictures
import Tocsin.Text.CharacterName.Syllables
import Tocsin.Text.CharacterName.Symbols
import Tocsin.Text.Cut
import Tocsin.Text.Digit
import Tocsin.Text.Ranges

/-!
# Names of characters

Characters have names, of words with spaces between them; `CharacterName.find?` finds the character
with a name.  Most names are listed, in runs of characters with consecutive codes.  In a run a small
letter stands in front of each name and tells how many words it shares with the name before it, `a`
for none, `b` for one, and so on; only the words behind them are written.  The names of ideographs
are made from their codes, those of Korean syllables from the names of the sounds in them, and those
of selectors are numbered.  The names are those of version 14 of the Unicode standard.
-/

set_option autoImplicit false

namespace Tocsin.Text.CharacterName

/-! ## Listed names -/

/-- Whether a character stands in front of a name. -/
def isMark (c : Char) : Bool := 'a' ≤ c && c ≤ 'z'

/-- Cuts a text at its marks: each of them, with what stands between it and the next one. -/
def cutAtMarks : List Char → List (Char × List Char)
  | [] => []
  | c :: rest => (c, rest.takeWhile (!isMark ·)) :: cutAtMarks (rest.dropWhile (!isMark ·))
termination_by cs => cs.length
decreasing_by exact Nat.lt_succ_of_le (List.dropWhile_suffix _).length_le

/-- The words of a text, none if it is empty. -/
def words (cs : List Char) : List (List Char) := if cs.isEmpty then [] else splitAt ' ' cs

/-- The words of each name of a run, given those of the name before. -/
def unfold (before : List (List Char)) : List (Char × List Char) → List (List (List Char))
  | [] => []
  | (mark, back) :: rest =>
    let name := before.take (mark.toNat - 'a'.toNat) ++ words back
    name :: unfold name rest

/-- The code of a name in a run, if it is there. -/
def codeInRun? (name : List (List Char)) (run : Nat × List String) : Option Nat :=
  ((unfold [] (cutAtMarks (run.2.flatMap String.toList))).idxOf? name).map (run.1 + ·)

/-- All runs. -/
def runs : List (Nat × List String) := alphabets ++ symbols ++ syllables ++ ancient ++ pictures

/-! ## Names that are made -/

/-- The digits of a code in the name of an ideograph, in small letters. -/
def codeDigits (n : Nat) : List Char := hexDigits (if n < 0x10000 then 4 else 5) n

/-- The code that is written in a name. -/
def writtenCode? (name : List Char) : Option Nat :=
  (name.mapM fun c => if isMark c then none else hexDigit? c).map (ofDigits 16)

/-- What stands in front of the code in the name of a unified ideograph. -/
def unifiedLead : List Char := "CJK UNIFIED IDEOGRAPH-".toList

/-- The codes of the unified ideographs. -/
def unified : List (Nat × Nat) :=
  [(0x3400, 0x4dbf), (0x4e00, 0x9fff), (0x20000, 0x2a6df), (0x2a700, 0x2b738), (0x2b740, 0x2b81d),
   (0x2b820, 0x2cea1), (0x2ceb0, 0x2ebe0), (0x30000, 0x3134a)]

/-- The unified ideograph with a code that is written in four or five digits. -/
def unifiedCode? (digits : List Char) : Option Nat :=
  if digits.length = 4 ∨ digits.length = 5 then (writtenCode? digits).filter (inRanges unified)
  else none

/-- Characters with their own codes in their names, by what stands in front of these. -/
def coded : List (String × List (Nat × Nat)) :=
  [("CJK COMPATIBILITY IDEOGRAPH-", [(0xf900, 0xfa6d), (0xfa70, 0xfad9), (0x2f800, 0x2fa1d)]),
   ("KHITAN SMALL SCRIPT CHARACTER-", [(0x18b00, 0x18cd5)]),
   ("NUSHU CHARACTER-", [(0x1b170, 0x1b2fb)])]

/-- The code in a name of a family of characters. -/
def familyCode? (name : List Char) (family : String × List (Nat × Nat)) : Option Nat :=
  if family.1.toList.isPrefixOf name then
    let digits := name.drop family.1.length
    (writtenCode? digits).filter fun n => inRanges family.2 n && codeDigits n == lowerAscii digits
  else none

/-- What stands in front of the number in a name of a selector. -/
def selectorLeads : List String := ["VARIATION SELECTOR-", "VS"]

/-- The code of the selector with a number, counted from one. -/
def selectorCode (n : Nat) : Nat := if n ≤ 16 then 0xfe00 + n - 1 else 0xe0100 + n - 17

/-- The code in a name of a selector. -/
def selector? (name : List Char) : Option Nat :=
  selectorLeads.findSome? fun lead =>
    if lead.toList.isPrefixOf name then
      let digits := name.drop lead.length
      ((List.range 256).find? fun n => decimalDigits (n + 1) == digits).map fun n =>
        selectorCode (n + 1)
    else none

/-! ## Korean syllables -/

/-- What stands in front of the sounds in the name of a Korean syllable. -/
def syllableLead : List Char := "HANGUL SYLLABLE ".toList

/-- The sounds that a syllable begins with. -/
def firstSounds : List String :=
  ["G", "GG", "N", "D", "DD", "R", "M", "B", "BB", "S", "SS", "", "J", "JJ", "C", "K", "T", "P",
   "H"]

/-- The vowels of a syllable. -/
def vowels : List String :=
  ["A", "AE", "YA", "YAE", "EO", "E", "YEO", "YE", "O", "WA", "WAE", "OE", "YO", "U", "WEO", "WE",
   "WI", "YU", "EU", "YI", "I"]

/-- The sounds that a syllable ends with. -/
def lastSounds : List String :=
  ["", "G", "GG", "GS", "N", "NJ", "NH", "D", "L", "LG", "LM", "LB", "LS", "LT", "LP", "LH", "M",
   "B", "BS", "S", "SS", "NG", "J", "C", "K", "T", "P", "H"]

/-- The longest of some sounds at the front of a name: its place among them, and what follows it. -/
def longestSound? (sounds : List String) (name : List Char) : Option (Nat × List Char) :=
  let fitting := sounds.zipIdx.filter fun s => s.1.toList.isPrefixOf name
  let best := fitting.foldl
    (fun (best : Option (String × Nat)) s =>
      match best with
      | some b => if b.1.length < s.1.length then some s else best
      | none => some s)
    none
  best.map fun s => (s.2, name.drop s.1.length)

/-- The code of the syllable with the sounds that a name gives. -/
def syllableCode? (name : List Char) : Option Nat := do
  let (first, name) ← longestSound? firstSounds name
  let (vowel, name) ← longestSound? vowels name
  let (last, name) ← longestSound? lastSounds name
  if name.isEmpty then
    return 0xac00 + (first * vowels.length + vowel) * lastSounds.length + last
  else none

/-! ## All names -/

/-- The code of the character with a name in capital letters that is listed, or made in one of the
ways in which letter case does not count. -/
def capitalCode? (name : List Char) : Option Nat :=
  let parts := words name
  coded.findSome? (familyCode? name) <|> selector? name <|> runs.findSome? (codeInRun? parts) <|>
    others.lookup (String.ofList name)

/-- The character with a name.  Letter case counts in the names of unified ideographs and of Korean
syllables only. -/
def find? (name : List Char) : Option Char :=
  let code? :=
    if unifiedLead.isPrefixOf name then unifiedCode? (name.drop unifiedLead.length)
    else if syllableLead.isPrefixOf name then syllableCode? (name.drop syllableLead.length)
    else capitalCode? (name.map Char.toUpper)
  code?.map Char.ofNat

end Tocsin.Text.CharacterName
