import Tocsin.Text.CompositionTable

/-!
# Composed text

A text is composed when none of its characters could be joined with a mark behind it, its marks
stand in canonical order, and none of its characters is always written in another way.  `isComposed`
finds out by taking the text apart (`decompose`), putting its marks in order (`ordered`) and
composing it again (`compose`): a composed text is one that comes back.  Korean syllables are taken
apart and composed by calculation; all other characters by the table of composites.
-/

set_option autoImplicit false

namespace Tocsin.Text

/-- The combining class of a character, 0 for one that starts anew. -/
def combiningClass (c : Char) : Nat :=
  ((combiningClasses.find? fun r => r.1 ≤ c.toNat && c.toNat ≤ r.2.1).map (·.2.2)).getD 0

/-- The two parts of a Korean syllable: its last consonant and the rest, or, without one, its first
consonant and its vowel. -/
def syllableParts? (n : Nat) : Option (Nat × Nat) :=
  if 0xac00 ≤ n ∧ n ≤ 0xd7a3 then
    let i := n - 0xac00
    if i % 28 = 0 then some (0x1100 + i / 588, 0x1161 + i % 588 / 28)
    else some (n - i % 28, 0x11a7 + i % 28)
  else none

/-- The Korean syllable of two parts. -/
def syllable? (a b : Nat) : Option Nat :=
  if 0x1100 ≤ a ∧ a ≤ 0x1112 ∧ 0x1161 ≤ b ∧ b ≤ 0x1175 then
    some (0xac00 + (a - 0x1100) * 588 + (b - 0x1161) * 28)
  else if 0xac00 ≤ a ∧ a ≤ 0xd7a3 ∧ (a - 0xac00) % 28 = 0 ∧ 0x11a8 ≤ b ∧ b ≤ 0x11c2 then
    some (a + (b - 0x11a7))
  else none

/-- The two characters that a composite stands for. -/
def parts? (c : Char) : Option (Char × Char) :=
  let found := (composites.find? fun r => r.2.2 = c.toNat).map fun r => (r.1, r.2.1)
  (found.orElse fun _ => syllableParts? c.toNat).map fun p => (Char.ofNat p.1, Char.ofNat p.2)

/-- The composite of two characters. -/
def composite? (a b : Char) : Option Char :=
  let found := (composites.find? fun r => r.1 = a.toNat && r.2.1 = b.toNat).map (·.2.2)
  (found.orElse fun _ => syllable? a.toNat b.toNat).map Char.ofNat

/-- Takes a character apart, down to a depth. -/
def decomposeTo : Nat → Char → List Char
  | 0, c => [c]
  | depth + 1, c =>
    match parts? c with
    | some (a, b) => decomposeTo depth a ++ [b]
    | none => [c]

/-- Takes a text apart; no composite is nested deeper than four. -/
def decompose (cs : List Char) : List Char := cs.flatMap (decomposeTo 4)

/-- Puts a character in front of a text whose marks are in order, behind the marks of a lower class.
-/
def insertMark (c : Char) : List Char → List Char
  | [] => [c]
  | d :: cs =>
    if 0 < combiningClass d ∧ combiningClass d < combiningClass c then d :: insertMark c cs
    else c :: d :: cs

/-- A text with its marks in canonical order. -/
def ordered (cs : List Char) : List Char := cs.foldr insertMark []

/-- Composes a character with what follows it; `kept` are the marks between them that could not be
joined with it, the last one first. -/
def composeFrom (starter : Char) (kept : List Char) : List Char → List Char
  | [] => starter :: kept.reverse
  | c :: cs =>
    let joined :=
      match kept with
      | [] => composite? starter c
      | last :: _ =>
        if combiningClass last < combiningClass c then composite? starter c else none
    match joined with
    | some s => composeFrom s kept cs
    | none =>
      if combiningClass c = 0 then starter :: kept.reverse ++ composeFrom c [] cs
      else composeFrom starter (c :: kept) cs

/-- Composes a text whose marks are in order. -/
def compose : List Char → List Char
  | [] => []
  | c :: cs => composeFrom c [] cs

/-- Whether a text is composed. -/
def isComposed (cs : List Char) : Bool :=
  !cs.any (fun c => inRanges neverComposedRanges c.toNat)
    && compose (ordered (decompose cs)) == cs

end Tocsin.Text
