import Tocsin.Text.Composition
import Tocsin.Text.Literal
import Tocsin.Webhook.LabelTable
import Tocsin.Text.Punycode

/-!
# Labels of host names

A host name outside ASCII is made of labels, and a label is valid when it is composed, has its
hyphens in the right places, does not start with a mark, consists of characters that may stand in a
label, each in its context, and does not mix directions of writing in a way that could mislead.  A
valid label goes over the wire in ASCII: as it is, or in Punycode behind `xn--`.
-/

set_option autoImplicit false

namespace Tocsin.Webhook

open Tocsin.Text

/-- Why a text is no label.  Positions count from 1. -/
inductive LabelFault where
  | tooLong
  | empty
  | notComposed
  | hyphenPair
  | hyphenAtEnd
  | leadingMark
  | forbidden (c : Char) (position : Nat) (label : List Char)
  | joinerOutOfPlace (c : Char) (position : Nat) (label : List Char)
  /-- A joiner stands behind a letter of which nothing is known but that it exists. -/
  | joinerUnnamed (c : Char) (position : Nat) (label : List Char)
  | outOfPlace (c : Char) (position : Nat) (label : List Char)
  | noDirection (position : Nat) (label : List Char)
  | badStart (label : List Char)
  | badDirection (position : Nat) (rightToLeft : Bool)
  | mixedDigits
  | badEnd
  | nothingEncoded
  | encodedHyphen
  | notEncoded
  /-- The label is encoded in another way than it should be. -/
  | notCanonical
  deriving DecidableEq, Repr

namespace LabelFault

/-- The number of a character, as messages write it. -/
def codePoint (c : Char) : String :=
  "U+" ++ String.ofList ((padLeft 4 '0' (Nat.toDigits 16 c.toNat)).map Char.toUpper)

/-- A label in quotes. -/
def quoted (label : List Char) : String := String.ofList (Literal.quote label)

/-- The wording of a fault. -/
def message : LabelFault → String
  | tooLong => "Label too long"
  | empty => "Empty Label"
  | notComposed => "Label must be in Normalization Form C"
  | hyphenPair => "Label has disallowed hyphens in 3rd and 4th position"
  | hyphenAtEnd => "Label must not start or end with a hyphen"
  | leadingMark => "Label begins with an illegal combining character"
  | forbidden c position label =>
    "Codepoint " ++ codePoint c ++ s!" at position {position} of " ++ quoted label ++ " not allowed"
  | joinerOutOfPlace c position label =>
    "Joiner " ++ codePoint c ++ s!" not allowed at position {position} in " ++ quoted label
  | joinerUnnamed c position label =>
    "Unknown codepoint adjacent to joiner " ++ codePoint c ++ s!" at position {position} in "
      ++ quoted label
  | outOfPlace c position label =>
    "Codepoint " ++ codePoint c ++ s!" not allowed at position {position} in " ++ quoted label
  | noDirection position label =>
    "Unknown directionality in label " ++ quoted label ++ s!" at position {position}"
  | badStart label =>
    "First codepoint in label " ++ quoted label ++ " must be directionality L, R or AL"
  | badDirection position rightToLeft =>
    s!"Invalid direction for codepoint at position {position} in a "
      ++ (if rightToLeft then "right-to-left" else "left-to-right") ++ " label"
  | mixedDigits => "Can not mix numeral types in a right-to-left label"
  | badEnd => "Label ends with illegal codepoint directionality"
  | nothingEncoded => "Malformed A-label, no Punycode eligible content found"
  | encodedHyphen => "A-label must not end with a hyphen"
  | notEncoded => "Invalid A-label"
  | notCanonical => "A-label is not the canonical Punycode encoding of its U-label"

end LabelFault

namespace Label

/-- The longest label before it is encoded, in characters. -/
def maxRaw : Nat := 254

/-- The longest label in ASCII. -/
def maxEncoded : Nat := 63

/-- What an encoded label starts with. -/
def encodedMark : List Char := ['x', 'n', '-', '-']

/-- Whether a character lies in a table. -/
def isIn (table : List (Nat × Nat)) (c : Char) : Bool := inRanges table c.toNat

/-- Whether a character is a mark that suppresses the vowel of its letter. -/
def isVirama (c : Char) : Bool := combiningClass c == 9

/-- Whether the letters around a joiner join across it; `before` runs backwards. -/
def joinsAcross (before after : List Char) : Bool :=
  let reaches (sides : List (Nat × Nat)) (cs : List Char) : Bool :=
    (((cs.dropWhile (isIn transparentRanges)).head?).map fun c =>
      isIn sides c || isIn dualJoiningRanges c).getD false
  reaches leftJoiningRanges before && reaches rightJoiningRanges after

/-- Whether a joiner may stand between two texts; `before` runs backwards. -/
def joinerFits (c : Char) (before after : List Char) : Bool :=
  (before.head?.map isVirama).getD false || (c.toNat == 0x200c && joinsAcross before after)

/-- Whether a character is a Japanese or a Chinese letter. -/
def isKanaOrHan (c : Char) : Bool :=
  isIn hiraganaRanges c || isIn katakanaRanges c || isIn hanRanges c

/-- Whether a character is a digit of the first Arabic set. -/
def isArabicDigit (c : Char) : Bool := 0x660 ≤ c.toNat && c.toNat ≤ 0x669

/-- Whether a character is a digit of the extended Arabic set. -/
def isExtendedDigit (c : Char) : Bool := 0x6f0 ≤ c.toNat && c.toNat ≤ 0x6f9

/-- The characters whose place decides: dots, numeral signs, punctuation and the two sets of Arabic
digits, which do not go together. -/
def isContextual (c : Char) : Bool :=
  c.toNat ∈ [0xb7, 0x375, 0x5f3, 0x5f4, 0x30fb] || isArabicDigit c || isExtendedDigit c

/-- Whether such a character may stand between two texts; `before` runs backwards. -/
def fits (c : Char) (before after : List Char) : Bool :=
  let next (p : Char → Bool) (cs : List Char) : Bool := (cs.head?.map p).getD false
  match c.toNat with
  | 0xb7 => next (· == 'l') before && next (· == 'l') after
  | 0x375 => next (isIn greekRanges) after
  | 0x5f3 | 0x5f4 => next (isIn hebrewRanges) before
  | 0x30fb => before.any isKanaOrHan || after.any isKanaOrHan
  | _ =>
    if isArabicDigit c then !(before.any isExtendedDigit || after.any isExtendedDigit)
    else !(before.any isArabicDigit || after.any isArabicDigit)

/-- Checks the characters of a label from one on; `before` are those in front of it, backwards. -/
def checkCharacters (label before : List Char) : List Char → Except LabelFault Unit
  | [] => .ok ()
  | c :: after =>
    let position := before.length + 1
    if isIn letterRanges c then checkCharacters label (c :: before) after
    else if c.toNat = 0x200c ∨ c.toNat = 0x200d then
      if (before.head?.map (isIn unnamedRanges)).getD false then
        .error (.joinerUnnamed c position label)
      else if joinerFits c before after then checkCharacters label (c :: before) after
      else .error (.joinerOutOfPlace c position label)
    else if isContextual c then
      if fits c before after then checkCharacters label (c :: before) after
      else .error (.outOfPlace c position label)
    else .error (.forbidden c position label)

/-- Directions of writing. -/
inductive Direction where
  | left
  | right
  | arabic
  | digit
  | arabicDigit
  | neutral
  | ofLetter
  /-- That of no label at all. -/
  | separator
  deriving DecidableEq, Repr

/-- The direction of a character; none when it is not known. -/
def direction? (c : Char) : Option Direction :=
  if !isPrintable c && !isIn unseenRanges c then none
  else if isIn rightRanges c then some .right
  else if isIn arabicRanges c then some .arabic
  else if isIn arabicDigitRanges c then some .arabicDigit
  else if isIn digitRanges c then some .digit
  else if isIn spacelessRanges c then some .ofLetter
  else if isIn neutralRanges c then some .neutral
  else if isIn separatorRanges c then some .separator
  else some .left

/-- Whether a label with this direction in it has to keep the rule of directions. -/
def Direction.isRightward : Direction → Bool
  | right | arabic | arabicDigit => true
  | _ => false

/-- The directions of a label's characters, from a position on. -/
def directions (label : List Char) (position : Nat) : List Char →
    Except LabelFault (List Direction)
  | [] => .ok []
  | c :: cs =>
    match direction? c with
    | none => .error (.noDirection position label)
    | some d => (directions label (position + 1) cs).map (d :: ·)

/-- Whether a direction may stand in a label that is written in the given way. -/
def Direction.goesWith (rightToLeft : Bool) (d : Direction) : Bool :=
  match d with
  | left => !rightToLeft
  | right | arabic | arabicDigit => rightToLeft
  | separator => false
  | _ => true

/-- Whether a label may end with a direction. -/
def Direction.canEnd (rightToLeft : Bool) (d : Direction) : Bool :=
  match d with
  | left => !rightToLeft
  | right | arabic | arabicDigit => rightToLeft
  | digit => true
  | _ => false

/-- Checks directions from a position on; `digits` is the kind of digit that was seen, and `ends`
whether the label could end here. -/
def checkDirections (rightToLeft : Bool) (position : Nat) (digits : Option Direction)
    (ends : Bool) : List Direction → Except LabelFault Unit
  | [] => if ends then .ok () else .error .badEnd
  | d :: ds =>
    if !d.goesWith rightToLeft then .error (.badDirection position rightToLeft)
    else
      let ends := if d = .ofLetter then ends else d.canEnd rightToLeft
      if rightToLeft ∧ (d = .digit ∨ d = .arabicDigit) then
        if digits.getD d = d then checkDirections rightToLeft (position + 1) (some d) ends ds
        else .error .mixedDigits
      else checkDirections rightToLeft (position + 1) digits ends ds

/-- Checks that a label does not mix directions in a misleading way. -/
def checkWriting (label : List Char) : Except LabelFault Unit := do
  let ds ← directions label 1 label
  if ds.any (·.isRightward) then
    match ds.head? with
    | some .right | some .arabic => checkDirections true 1 none false ds
    | some .left => checkDirections false 1 none false ds
    | _ => .error (.badStart label)

/-- Checks that a text is a valid label. -/
def check (label : List Char) : Except LabelFault Unit := do
  if label.isEmpty then .error .empty
  if maxRaw < label.length then .error .tooLong
  if !isComposed label then .error .notComposed
  if (label.drop 2).take 2 = ['-', '-'] then .error .hyphenPair
  if label.head? = some '-' ∨ label.getLast? = some '-' then .error .hyphenAtEnd
  if (label.head?.map (isIn markRanges)).getD false then .error .leadingMark
  checkWriting label
  checkCharacters label [] label

/-- The text that a label in ASCII stands for. -/
def decode (label : List Char) : Except LabelFault (List Char) := do
  let label := lowerAscii label
  if encodedMark.isPrefixOf label then
    let encoded := label.drop 4
    if encoded.isEmpty then .error .nothingEncoded
    if encoded.getLast? = some '-' then .error .encodedHyphen
    match Punycode.decode? encoded with
    | none => .error .notEncoded
    | some text =>
      if Punycode.encode text ≠ encoded then .error .notCanonical
      check text
      return text
  else
    check label
    return label

/-- The label in ASCII that stands for a text. -/
def encode (label : List Char) : Except LabelFault (List Char) := do
  let encoded ←
    if label.all fun c => c.toNat < 0x80 then do
      let _ ← decode label
      pure label
    else do
      check label
      pure (encodedMark ++ Punycode.encode label)
  if maxEncoded < encoded.length then .error .tooLong
  return encoded

end Label

end Tocsin.Webhook
