import Tocsin.Text.Coding.KoreanTable
import Tocsin.Text.Coding.Reading

/-!
# Charsets of Korea

The Korean set holds some thousand syllables, but not all.  One charset puts the lacking syllables
together from letters, in eight bytes; another one gives them pairs of bytes of their own, in their
order; a third one composes all syllables from letters, within the bits of two bytes.
-/

set_option autoImplicit false

namespace Tocsin.Text.Coding

/-- The charsets of Korea. -/
inductive KoreanSet where
  /-- Lacking syllables stand in eight bytes. -/
  | spelled
  /-- Lacking syllables have pairs of bytes of their own. -/
  | unified
  /-- Syllables are composed. -/
  | composed
  deriving DecidableEq, Repr

/-! ## Letters and syllables -/

/-- The letters that a syllable starts with. -/
def initialLetters : List Char := "ㄱㄲㄴㄷㄸㄹㅁㅂㅃㅅㅆㅇㅈㅉㅊㅋㅌㅍㅎ".toList

/-- The vowels. -/
def vowelLetters : List Char := "ㅏㅐㅑㅒㅓㅔㅕㅖㅗㅘㅙㅚㅛㅜㅝㅞㅟㅠㅡㅢㅣ".toList

/-- The letters that a syllable may end with. -/
def finalLetters : List Char := "ㄱㄲㄳㄴㄵㄶㄷㄹㄺㄻㄼㄽㄾㄿㅀㅁㅂㅄㅅㅆㅇㅈㅊㅋㅌㅍㅎ".toList

/-- The syllable of an initial letter, a vowel and perhaps a final letter, all by their places. -/
def syllable (initial vowel : Nat) (final : Option Nat) : Char :=
  Char.ofNat (0xac00 + initial * 588 + vowel * 28 + (final.map (· + 1)).getD 0)

/-- The character of two bytes with their highest bits. -/
def koreanChar? (a b : UInt8) : Option Char := do korean.char? (← highPlace? a) (← highPlace? b)

/-- The code points of the syllables that the set holds, in rising order. -/
def heldSyllables : List Nat :=
  (korean.rows.flatMap fun row => row.toList.map Char.toNat).filter fun n =>
    0xac00 ≤ n && n ≤ 0xd7a3

/-- The number at a place among those from `start` on that an ascending list does not hold. -/
def outside (start place : Nat) : List Nat → Nat
  | [] => start + place
  | n :: ns => if place < n - start then start + place else outside (n + 1) (place - (n - start)) ns

/-! ## Eight bytes -/

/-- The place of a letter that a byte with its highest bit names, among the given letters. -/
def letterPlace? (letters : List Char) (b : UInt8) : Option Nat :=
  letters.idxOf? (Char.ofNat (0x3131 + (b.toNat - 0xa1)))

/-- The syllable of three letters behind a filler; each of the four is a pair of bytes. -/
def spelledSyllable? (bytes : List UInt8) : Option Char :=
  match bytes with
  | [0xa4, 0xd4, 0xa4, i, 0xa4, v, 0xa4, f] => do
    if i.toNat < 0xa1 ∨ v.toNat < 0xa1 ∨ f.toNat < 0xa1 then none
    let initial ← letterPlace? initialLetters i
    let vowel ← letterPlace? vowelLetters v
    if f = 0xd4 then return syllable initial vowel none
    return syllable initial vowel (some (← letterPlace? finalLetters f))
  | _ => none

/-- What stands at the front of bytes, where a filler announces the letters of a syllable. -/
def spelledFront : Unit → UInt8 → List UInt8 → Front Unit
  | (), a, rest =>
    match ascii? a, rest with
    | some x, _ => .read 1 [x] ()
    | none, [] => .unfinished
    | none, b :: _ =>
      if a = 0xa4 ∧ b = 0xd4 then
        if rest.length < 7 then .unfinished
        else
          match spelledSyllable? (a :: rest.take 7) with
          | some x => .read 8 [x] ()
          | none => .illFormed 1
      else frontOfPair ((koreanChar? a b).map ([·]))

/-! ## Pairs for all syllables -/

/-- The place of a second byte that is a letter of ASCII or lies above ASCII. -/
def unifiedCell? (b : UInt8) : Option Nat :=
  let n := b.toNat
  if 0x41 ≤ n ∧ n ≤ 0x5a then some (n - 0x41)
  else if 0x61 ≤ n ∧ n ≤ 0x7a then some (n - 0x61 + 26)
  else if 0x81 ≤ n ∧ n ≤ 0xfe then some (n - 0x81 + 52)
  else none

/-- The running number of two bytes among those of the lacking syllables: 178 for each first byte
below 0xa1, and 84 for each of the others. -/
def unifiedNumber? (a b : UInt8) : Option Nat := do
  let row := a.toNat
  let cell ← unifiedCell? b
  if row < 0x81 then none
  else if row < 0xa1 then some ((row - 0x81) * 178 + cell)
  else if cell < 84 then some (32 * 178 + (row - 0xa1) * 84 + cell)
  else none

/-- The character of two bytes, with the lacking syllables in their order. -/
def unifiedChar? (a b : UInt8) : Option Char :=
  (koreanChar? a b).or do
    let n ← unifiedNumber? a b
    if n < 11172 - heldSyllables.length then
      return Char.ofNat (outside 0xac00 n heldSyllables)
    else none

/-! ## Composed syllables -/

/-- The initial letter that five bits name: none for nothing, and none inside for a filler. -/
def initialOfBits? (n : Nat) : Option (Option Nat) :=
  if n = 1 then some none else if 2 ≤ n ∧ n ≤ 20 then some (some (n - 2)) else none

/-- The vowel that five bits name; six names of each eight are in use. -/
def vowelOfBits? (n : Nat) : Option (Option Nat) :=
  if n = 2 then some none
  else if n % 8 < 2 ∨ n < 3 ∨ 29 < n then none
  else some (some (n / 8 * 6 + n % 8 - 3))

/-- The final letter that five bits name. -/
def finalOfBits? (n : Nat) : Option (Option Nat) :=
  if n = 1 then some none
  else if 2 ≤ n ∧ n ≤ 17 then some (some (n - 2))
  else if 19 ≤ n ∧ n ≤ 29 then some (some (n - 3))
  else none

/-- The character of letters and fillers: a syllable, or a letter alone. -/
def composedChar? : Option Nat → Option Nat → Option Nat → Option Char
  | some i, some v, f => some (syllable i v f)
  | some i, none, none => initialLetters[i]?
  | none, some v, none => vowelLetters[v]?
  | none, none, some f => finalLetters[f]?
  | none, none, none => some (Char.ofNat 0x3000)
  | _, _, _ => none

/-- The character of two bytes that name three letters by five bits each. -/
def lettersChar? (a b : Nat) : Option Char := do
  composedChar? (← initialOfBits? (a / 4 % 32)) (← vowelOfBits? (a % 4 * 8 + b / 32))
    (← finalOfBits? (b % 32))

/-- The character of two bytes that belong to two rows of the Korean set each, less its syllables
and letters. -/
def otherChar? (a b : Nat) : Option Char :=
  if a = 0xdf ∨ 0xf9 < a ∨ b < 0x31 ∨ (0x80 ≤ b ∧ b < 0x91) ∨ b % 0x80 = 0x7f
      ∨ (a = 0xda ∧ 0xa1 ≤ b ∧ b ≤ 0xd3) then none
  else
    let cell := if b < 0x91 then b - 0x31 else b - 0x43
    let row := if a < 0xe0 then 2 * (a - 0xd9) else 2 * a - 0x197
    if a < 0xd9 then none else korean.char? (row + cell / 94) (cell % 94)

/-- What stands at the front of bytes, where syllables are composed. -/
def composedFront : Unit → UInt8 → List UInt8 → Front Unit :=
  pairFront ascii? fun a b =>
    let c? := if a.toNat < 0xd8 then lettersChar? a.toNat b.toNat else otherChar? a.toNat b.toNat
    frontOfPair (c?.map ([·]))

/-- What stands at the front of bytes. -/
def KoreanSet.front : KoreanSet → Unit → UInt8 → List UInt8 → Front Unit
  | spelled => spelledFront
  | unified => pairFront ascii? fun a b => frontOfPair ((unifiedChar? a b).map ([·]))
  | composed => composedFront

end Tocsin.Text.Coding
