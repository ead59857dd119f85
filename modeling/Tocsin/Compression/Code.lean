import Tocsin.Compression.Bits

/-!
# Prefix codes

A prefix code gives each of its symbols a word of bits, no word being the start of another one.  It
is determined by the lengths of the words: shorter words come first, and words of one length are
consecutive numbers in the order of their symbols.  `PrefixCode.read` reads one word.
-/

set_option autoImplicit false

namespace Tocsin.Compression

/-- A prefix code: how many words there are of each length, from one on, and the symbols in the
order of their words. -/
structure PrefixCode where
  /-- The number of words of one bit. -/
  single : Nat
  /-- The numbers of the longer words. -/
  longer : List Nat
  symbols : List Nat
  deriving DecidableEq, Repr

namespace PrefixCode

/-- The longest word, in bits. -/
def maxLength : Nat := 15

/-- The symbols with words of a length. -/
def symbolsOfLength (lengths : List Nat) (length : Nat) : List Nat :=
  (List.range lengths.length).filter fun symbol => lengths[symbol]? == some length

/-- The code with the given length of a word for each symbol; zero stands for no word. -/
def ofLengths (lengths : List Nat) : PrefixCode where
  single := lengths.count 1
  longer :=
    (List.range (lengths.foldl max 0 - 1)).map fun i => lengths.count (i + 2)
  symbols := (List.range maxLength).flatMap fun i => symbolsOfLength lengths (i + 1)

/-- How many words of the greatest length are left when words of the given lengths are taken; none
when too many are taken. -/
def unused? (lengths : List Nat) : Option Nat :=
  (List.range maxLength).foldl
    (fun left i => left.bind fun left =>
      let taken := lengths.count (i + 1)
      if taken ≤ 2 * left then some (2 * left - taken) else none)
    (some 1)

/-- Whether the words use up all texts of bits. -/
def isComplete (lengths : List Nat) : Bool := unused? lengths == some 0

/-- Whether the words use up all texts of bits, or at least get in nobody's way, being none or a
single one of one bit. -/
def isUsable (lengths : List Nat) : Bool :=
  match unused? lengths with
  | none => false
  | some left => left = 0 || lengths.all (· ≤ 1)

/-- Reads a word, given how far the number that was read so far is from the first word of its
length, the symbols that are left, and how many of them have words of this length and of longer
ones.  There is no symbol for a word that is not in the code. -/
def readFrom (offset : Nat) (symbols : List Nat) (count : Nat) (longer : List Nat) :
    List Bool → Taken (Option Nat)
  | [] => .error .truncated
  | bit :: bits =>
    let offset := 2 * offset + bit.toNat
    if offset < count then .ok (symbols[offset]?, bits)
    else
      match longer with
      | [] => .ok (none, bits)
      | next :: others => readFrom (offset - count) (symbols.drop count) next others bits

/-- Reads a word; there is no symbol for one that is not in the code. -/
def read (code : PrefixCode) (bits : List Bool) : Taken (Option Nat) :=
  readFrom 0 code.symbols code.single code.longer bits

/-- A word has at least one bit. -/
theorem length_readFrom {offset count : Nat} {symbols longer : List Nat} {bits rest : List Bool}
    {symbol : Option Nat}
    (h : readFrom offset symbols count longer bits = .ok (symbol, rest)) :
    rest.length < bits.length := by
  induction bits generalizing offset symbols count longer with
  | nil => cases longer <;> simp [readFrom] at h
  | cons bit bits ih =>
    cases longer with
    | nil =>
      simp only [readFrom] at h
      split at h <;> simp_all
    | cons next others =>
      simp only [readFrom] at h
      split at h
      · simp_all
      · have := ih h
        simp only [List.length_cons]
        omega

/-- A word has at least one bit. -/
theorem length_read {code : PrefixCode} {bits rest : List Bool} {symbol : Option Nat}
    (h : code.read bits = .ok (symbol, rest)) : rest.length < bits.length :=
  length_readFrom h

end PrefixCode

end Tocsin.Compression
