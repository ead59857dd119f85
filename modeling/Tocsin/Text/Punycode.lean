import Tocsin.Text.Cut

/-!
# Punycode

Punycode writes a text in ASCII.  The ASCII characters of the text stand in front, then a hyphen,
then for every other character, in rising order, how far it lies behind the one before it, counting
all the places where a character could be inserted.  The distances are numbers of varying length to
the base 36; how many digits are short depends on a bias, which follows the distances so far.
-/

set_option autoImplicit false

namespace Tocsin.Text.Punycode

/-- The digit of a value below 36: letters first. -/
def digit (n : Nat) : Char := if n < 26 then Char.ofNat (97 + n) else Char.ofNat (22 + n)

/-- The value of a digit in either case. -/
def digitValue? (c : Char) : Option Nat :=
  if 'a' ≤ c ∧ c ≤ 'z' then some (c.toNat - 97)
  else if 'A' ≤ c ∧ c ≤ 'Z' then some (c.toNat - 65)
  else if '0' ≤ c ∧ c ≤ '9' then some (c.toNat - 22)
  else none

/-- The value below which the digit at a place is the last one of its number; places count 36, 72, …
-/
def threshold (bias place : Nat) : Nat := max 1 (min 26 (place - bias))

/-- No digit at any place is the last one by being zero alone. -/
theorem threshold_pos (bias place : Nat) : 1 ≤ threshold bias place := Nat.le_max_left ..

/-- How often a number has to be divided by 35 until it is at most 455, times 36, and what is left.
-/
def scaleDown (n scale : Nat) : Nat × Nat :=
  if 455 < n then scaleDown (n / 35) (scale + 36) else (n, scale)
termination_by n

/-- The bias behind a distance, given how many characters there are now. -/
def nextBias (distance : Nat) (isFirst : Bool) (count : Nat) : Nat :=
  let damped := if isFirst then distance / 700 else distance / 2
  let (rest, scale) := scaleDown (damped + damped / count) 0
  scale + 36 * rest / (rest + 38)

/-- The digits of a distance from a place on. -/
def digits (bias place n : Nat) : List Char :=
  let t := threshold bias place
  if n < t then [digit n]
  else digit (t + (n - t) % (36 - t)) :: digits bias (place + 36) ((n - t) / (36 - t))
termination_by n
decreasing_by
  have h₁ := threshold_pos bias place
  calc (n - threshold bias place) / (36 - threshold bias place)
      ≤ n - threshold bias place := Nat.div_le_self ..
    _ < n := by omega

/-- Where the encoding stands: the digits so far, the distance since the last number, the bias, and
how many characters are written. -/
structure Progress where
  written : List Char
  distance : Nat
  bias : Nat
  count : Nat

/-- Writes the number of the distance so far. -/
def Progress.emit (p : Progress) (isFirst : Bool) : Progress where
  written := p.written ++ digits p.bias 36 p.distance
  distance := 0
  bias := nextBias p.distance isFirst (p.count + 1)
  count := p.count + 1

/-- Passes a character of the text while the characters with code `n` are being written. -/
def pass (n basic : Nat) (p : Progress) (c : Char) : Progress :=
  if c.toNat < n then { p with distance := p.distance + 1 }
  else if c.toNat = n then p.emit (p.count == basic)
  else p

/-- Writes the characters with the given codes, in rising order; `start` is the first code that is
not yet passed. -/
def encodeFrom (cs : List Char) (basic : Nat) : Nat → List Nat → Progress → Progress
  | _, [], p => p
  | start, n :: ns, p =>
    let p := { p with distance := p.distance + (n - start) * (p.count + 1) }
    let p := cs.foldl (pass n basic) p
    encodeFrom cs basic (n + 1) ns { p with distance := p.distance + 1 }

/-- A number in its place among rising ones, once. -/
def insertCode (n : Nat) : List Nat → List Nat
  | [] => [n]
  | m :: ms => if n < m then n :: m :: ms else if n = m then m :: ms else m :: insertCode n ms

/-- A text in Punycode. -/
def encode (cs : List Char) : List Char :=
  let basic := cs.filter fun c => c.toNat < 0x80
  let codes := (cs.filter fun c => 0x80 ≤ c.toNat).foldr (fun c ns => insertCode c.toNat ns) []
  let p := encodeFrom cs basic.length 0x80 codes ⟨[], 0, 72, basic.length⟩
  basic ++ (if basic.isEmpty then [] else ['-']) ++ p.written

/-- Why digits cannot be read. -/
inductive Fault where
  /-- A character is no digit. -/
  | notADigit (c : Char)
  /-- The digits end within a number. -/
  | unfinished
  /-- No character can have the code. -/
  | tooLarge (code : Nat)
  deriving DecidableEq, Repr

/-- The wording of a fault. -/
def Fault.message : Fault → String
  | notADigit c => "Invalid extended code point '" ++ String.singleton c ++ "'"
  | unfinished => "incomplete punicode string"
  | tooLarge code => "Invalid character U+" ++ String.ofList (Nat.toDigits 16 code)

/-- Reads a number: its value, and what follows it. -/
def readNumber (bias place weight value : Nat) : List Char → Except Fault (Nat × List Char)
  | [] => .error .unfinished
  | c :: cs =>
    match digitValue? c with
    | none => .error (.notADigit c)
    | some d =>
      let t := threshold bias place
      if d < t then .ok (value + d * weight, cs)
      else readNumber bias (place + 36) (weight * (36 - t)) (value + d * weight) cs

/-- What follows a number is shorter than the text that it is read from. -/
theorem length_of_readNumber {bias place weight value : Nat} {cs : List Char} {r : Nat × List Char}
    (h : readNumber bias place weight value cs = .ok r) : r.2.length < cs.length := by
  induction cs generalizing place weight value with
  | nil => simp [readNumber] at h
  | cons c cs ih =>
    simp only [readNumber] at h
    split at h
    · simp at h
    · split at h
      · simp only [Except.ok.injEq] at h
        subst h
        simp
      · have := ih h
        simp only [List.length_cons]
        omega

/-- The character with a code; the codes that no character has give the replacement character. -/
def ofCode (n : Nat) : Char := Char.ofNat (if n.isValidChar then n else 0xfffd)

/-- Inserts characters into a text, as the digits say; `code` and `place` are those of the character
that was inserted last, `place` counted from behind it.  A forgiving reader keeps what it has where
the digits are malformed, and takes a question mark for a code that is too large. -/
def insertAll (forgiving : Bool) (code place bias : Nat) (isFirst : Bool) (text cs : List Char) :
    Except Fault (List Char) :=
  if cs.isEmpty then .ok text
  else
    match h : readNumber bias 36 1 0 cs with
    | .error fault => if forgiving then .ok text else .error fault
    | .ok (distance, rest) =>
      let count := text.length + 1
      let total := place + distance
      let code := code + total / count
      if 0x10ffff < code && !forgiving then .error (.tooLarge code)
      else
        let code := if 0x10ffff < code then '?'.toNat else code
        let place := total % count
        let text := text.take place ++ ofCode code :: text.drop place
        insertAll forgiving code (place + 1) (nextBias distance isFirst count) false text rest
termination_by cs.length
decreasing_by exact length_of_readNumber h

/-- The text of the characters in front of the last hyphen and the digits behind it. -/
def decodeParts (forgiving : Bool) (basic digits : List Char) : Except Fault (List Char) :=
  insertAll forgiving 0x80 0 72 true basic digits

/-- The text that is written in Punycode; none when the digits are malformed. -/
def decode? (cs : List Char) : Option (List Char) :=
  match beforeLast? '-' cs with
  | some basic => (decodeParts false basic (cs.drop (basic.length + 1))).toOption
  | none => (decodeParts false [] cs).toOption

end Tocsin.Text.Punycode
