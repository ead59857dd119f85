/-!
# UTF-8

A byte string is cut into `units`: each is a well-formed sequence, which gives its character, or an
ill-formed piece, which gives none.  An ill-formed piece is the longest start of a well-formed
sequence that the bytes offer, and a single byte where they offer no such start.  A strict reader
accepts the texts in which every unit is a character; a forgiving one puts the replacement character
in the place of each ill-formed piece.
-/

set_option autoImplicit false

namespace Tocsin.Text.Utf8

/-- The bytes of a character. -/
def encodeChar (c : Char) : List UInt8 :=
  let n := c.toNat
  if n < 0x80 then [n.toUInt8]
  else if n < 0x800 then [(0xc0 + n / 0x40).toUInt8, (0x80 + n % 0x40).toUInt8]
  else if n < 0x10000 then
    [(0xe0 + n / 0x1000).toUInt8, (0x80 + n / 0x40 % 0x40).toUInt8, (0x80 + n % 0x40).toUInt8]
  else
    [(0xf0 + n / 0x40000).toUInt8, (0x80 + n / 0x1000 % 0x40).toUInt8,
     (0x80 + n / 0x40 % 0x40).toUInt8, (0x80 + n % 0x40).toUInt8]

/-- The bytes of a text. -/
def encode (cs : List Char) : List UInt8 := cs.flatMap encodeChar

/-- What a first byte announces: its share of the code point and, for each byte that must follow,
the closed range that byte lies in. -/
def announced (b : UInt8) : Option (Nat × List (Nat × Nat)) :=
  let n := b.toNat
  let tail := (0x80, 0xbf)
  if n < 0x80 then some (n, [])
  else if n < 0xc2 then none
  else if n < 0xe0 then some (n - 0xc0, [tail])
  else if n = 0xe0 then some (0, [(0xa0, 0xbf), tail])
  else if n = 0xed then some (0xd, [(0x80, 0x9f), tail])
  else if n < 0xf0 then some (n - 0xe0, [tail, tail])
  else if n = 0xf0 then some (0, [(0x90, 0xbf), tail, tail])
  else if n < 0xf4 then some (n - 0xf0, [tail, tail, tail])
  else if n = 0xf4 then some (4, [(0x80, 0x8f), tail, tail])
  else none

/-- Reads the bytes that must follow a first byte.  The answer is the code point, or none when one
is missing, and how many of the bytes were fit. -/
def follow (code : Nat) : List (Nat × Nat) → List UInt8 → Option Nat × Nat
  | [], _ => (some code, 0)
  | _ :: _, [] => (none, 0)
  | (lo, hi) :: ranges, b :: bytes =>
    if lo ≤ b.toNat ∧ b.toNat ≤ hi then
      let (answer, fit) := follow (code * 0x40 + (b.toNat - 0x80)) ranges bytes
      (answer, fit + 1)
    else (none, 0)

/-- The units of a byte string: characters, and none for each ill-formed piece. -/
def units : List UInt8 → List (Option Char)
  | [] => []
  | b :: bytes =>
    match announced b with
    | none => none :: units bytes
    | some (code, ranges) =>
      let (answer, fit) := follow code ranges bytes
      answer.map Char.ofNat :: units (bytes.drop fit)
termination_by bytes => bytes.length
decreasing_by all_goals (simp only [List.length_cons, List.length_drop]; omega)

/-- The text of a byte string that is well-formed throughout. -/
def decode? (bytes : List UInt8) : Option (List Char) := (units bytes).mapM id

/-- The text of a byte string, with the replacement character for each ill-formed piece. -/
def decodeLossy (bytes : List UInt8) : List Char :=
  (units bytes).map (·.getD (Char.ofNat 0xfffd))

end Tocsin.Text.Utf8
