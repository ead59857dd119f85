import Tocsin.Text.Digit
import Tocsin.Text.Printable

/-!
# Quoted literals

A literal shows a text between quotation marks so that it can be read back.  The mark is the
apostrophe, or the double mark for a text that holds an apostrophe and no double mark.  Inside, the
mark and the backslash are preceded by a backslash; a tab, a line feed and a carriage return are
written `\t`, `\n` and `\r`; any other character that is not printable is written by its code point,
`\x` with two hexadecimal digits, `\u` with four or `\U` with eight.  `unquote?` reads a literal
back.  Byte strings have the same literals, with a `b` in front and `\x` for every byte outside
the printable ASCII range.
-/

set_option autoImplicit false

namespace Tocsin.Text.Literal

/-- The apostrophe, the usual mark. -/
def apostrophe : Char := Char.ofNat 0x27

/-- The double quotation mark. -/
def doubleMark : Char := Char.ofNat 0x22

/-- The quotation mark of a text. -/
def mark (cs : List Char) : Char :=
  if apostrophe ∈ cs ∧ doubleMark ∉ cs then doubleMark else apostrophe

/-- The escape of a character by its code point, in the shortest of the three forms. -/
def escapeCode (n : Nat) : List Char :=
  if n < 0x100 then '\\' :: 'x' :: hexDigits 2 n
  else if n < 0x10000 then '\\' :: 'u' :: hexDigits 4 n
  else '\\' :: 'U' :: hexDigits 8 n

/-- A character as it stands between marks `q`. -/
def escape (q c : Char) : List Char :=
  if c = q ∨ c = '\\' then ['\\', c]
  else if c = '\t' then ['\\', 't']
  else if c = '\n' then ['\\', 'n']
  else if c = '\r' then ['\\', 'r']
  else if isPrintable c then [c]
  else escapeCode c.toNat

/-- The literal of a text. -/
def quote (cs : List Char) : List Char :=
  mark cs :: cs.flatMap (escape (mark cs)) ++ [mark cs]

/-- The literal of a text. -/
def quoted (s : String) : String := String.ofList (quote s.toList)

/-- The number that exactly `count` hexadecimal digits denote, and what follows them. -/
def readHex : Nat → Nat → List Char → Option (Nat × List Char)
  | 0, n, cs => some (n, cs)
  | _ + 1, _, [] => none
  | count + 1, n, c :: cs =>
    match hexDigit? c with
    | some d => readHex count (n * 16 + d) cs
    | none => none

/-- No more follows digits than the text has. -/
theorem readHex_length {count n m : Nat} {cs rest : List Char}
    (h : readHex count n cs = some (m, rest)) : rest.length ≤ cs.length := by
  induction count generalizing n cs with
  | zero => simp only [readHex, Option.some.injEq, Prod.mk.injEq] at h; simp [h.2]
  | succ count ih =>
    cases cs with
    | nil => simp [readHex] at h
    | cons c cs =>
      simp only [readHex] at h
      split at h
      · exact Nat.le_succ_of_le (ih h)
      · cases h

/-- Reads a literal's text up to the closing mark `q`, which must be its last character. -/
def unescape (q : Char) : List Char → Option (List Char)
  | [] => none
  | '\\' :: 't' :: cs => (unescape q cs).map ('\t' :: ·)
  | '\\' :: 'n' :: cs => (unescape q cs).map ('\n' :: ·)
  | '\\' :: 'r' :: cs => (unescape q cs).map ('\r' :: ·)
  | '\\' :: 'x' :: cs => code 2 cs
  | '\\' :: 'u' :: cs => code 4 cs
  | '\\' :: 'U' :: cs => code 8 cs
  | '\\' :: c :: cs => if c = q ∨ c = '\\' then (unescape q cs).map (c :: ·) else none
  | c :: cs =>
    if c = q then (if cs.isEmpty then some [] else none)
    else if c = '\\' then none
    else (unescape q cs).map (c :: ·)
termination_by cs => cs.length
where
  /-- Reads the digits of a code point and goes on behind them. -/
  code (count : Nat) (cs : List Char) : Option (List Char) :=
    match h : readHex count 0 cs with
    | none => none
    | some (n, rest) =>
      have := readHex_length h
      (unescape q rest).map (Char.ofNat n :: ·)
  termination_by cs.length + 1

/-- The text that a literal shows. -/
def unquote? : List Char → Option (List Char)
  | [] => none
  | q :: cs => if q = apostrophe ∨ q = doubleMark then unescape q cs else none

/-- A byte as it stands between marks `q`. -/
def escapeByte (q : Char) (b : UInt8) : List Char :=
  let c := Char.ofNat b.toNat
  if c = q ∨ c = '\\' then ['\\', c]
  else if c = '\t' then ['\\', 't']
  else if c = '\n' then ['\\', 'n']
  else if c = '\r' then ['\\', 'r']
  else if 0x20 ≤ b.toNat ∧ b.toNat < 0x7f then [c]
  else '\\' :: 'x' :: hexDigits 2 b.toNat

/-- The literal of a byte string. -/
def quoteBytes (bytes : List UInt8) : List Char :=
  let q := mark (bytes.map fun b => Char.ofNat b.toNat)
  'b' :: q :: bytes.flatMap (escapeByte q) ++ [q]

end Tocsin.Text.Literal
