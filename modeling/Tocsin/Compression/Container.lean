import Tocsin.Compression.Inflate

/-!
# Containers of deflated data

Deflated data comes in one of two containers, or bare.  The short container has a head of two bytes
and ends with a sum of the data; the long one has a head with optional fields and ends with another
sum and the length of the data.  Opening a container gives the data in it.  A container that is cut
off gives what was in it so far, and what follows a container does not count.
-/

set_option autoImplicit false

namespace Tocsin.Compression

/-! ## Sums -/

/-- The sum of the short container: the sum of the bytes, and the sum of these sums. -/
def adlerSum (bytes : List UInt8) : Nat :=
  let (low, high) := bytes.foldl
    (fun (low, high) b =>
      let low := (low + b.toNat) % 65521
      (low, (high + low) % 65521))
    (1, 0)
  high * 0x10000 + low

/-- Takes one bit into a cyclic sum. -/
def cyclicStep (sum : Nat) : Nat :=
  if sum % 2 = 1 then (sum / 2) ^^^ 0xedb88320 else sum / 2

/-- Takes one byte into a cyclic sum. -/
def cyclicByte (sum : Nat) (b : UInt8) : Nat :=
  (List.range 8).foldl (fun sum _ => cyclicStep sum) (sum ^^^ b.toNat)

/-- The sum of the long container: the remainder in a division of polynomials. -/
def cyclicSum (bytes : List UInt8) : Nat :=
  bytes.foldl cyclicByte 0xffffffff ^^^ 0xffffffff

/-! ## Numbers of bytes -/

/-- The number that bytes denote, lowest byte first. -/
def numberOf (bytes : List UInt8) : Nat :=
  bytes.foldr (fun b n => b.toNat + 256 * n) 0

/-- Cuts a number of bytes off. -/
def takeBytes (count : Nat) (bytes : List UInt8) : Except Stop (List UInt8 × List UInt8) :=
  if bytes.length < count then .error .truncated
  else .ok (bytes.take count, bytes.drop count)

/-- The bytes of the rest of a stream of bits, from the next whole byte on. -/
def bytesOfBits (bits : List Bool) : List UInt8 := go (skipToByte bits)
where
  /-- Puts eight bits at a time together. -/
  go : List Bool → List UInt8
    | a :: b :: c :: d :: e :: f :: g :: h :: rest =>
      let value := [a, b, c, d, e, f, g, h].foldr (fun bit n => bit.toNat + 2 * n) 0
      value.toUInt8 :: go rest
    | _ => []

/-! ## Containers -/

/-- Reads the head of the short container, and gives what follows it. -/
def shortHead (bytes : List UInt8) : Except Stop (List UInt8) := do
  let (head, rest) ← takeBytes 2 bytes
  let method := (head.map UInt8.toNat).headD 0
  let check := numberOf head.reverse
  if check % 31 ≠ 0 then .error (.faulty .headerCheck)
  if method % 16 ≠ 8 then .error (.faulty .method)
  if 7 < method / 16 then .error (.faulty .window)
  if (numberOf head).testBit 13 then
    let _ ← takeBytes 4 rest
    .error (.faulty .dictionary)
  return rest

/-- Cuts a text off that a zero byte ends. -/
def takeText (bytes : List UInt8) : Except Stop (List UInt8) :=
  match bytes.dropWhile (· ≠ 0) with
  | [] => .error .truncated
  | _ :: rest => .ok rest

/-- Reads the head of the long container, and gives what follows it. -/
def longHead (bytes : List UInt8) : Except Stop (List UInt8) := do
  let (mark, rest) ← takeBytes 2 bytes
  if mark ≠ [0x1f, 0x8b] then .error (.faulty .headerCheck)
  let (head, rest) ← takeBytes 2 rest
  if head.head? ≠ some 8 then .error (.faulty .method)
  let flags := numberOf (head.drop 1)
  if 32 ≤ flags then .error (.faulty .flags)
  let (_, rest) ← takeBytes 6 rest
  let rest ← if flags.testBit 2 then do
      let (length, rest) ← takeBytes 2 rest
      let (_, rest) ← takeBytes (numberOf length) rest
      pure rest
    else pure rest
  let rest ← if flags.testBit 3 then takeText rest else pure rest
  let rest ← if flags.testBit 4 then takeText rest else pure rest
  if flags.testBit 1 then
    let (sum, after) ← takeBytes 2 rest
    let read := bytes.take (bytes.length - rest.length)
    if numberOf sum ≠ cyclicSum read % 0x10000 then .error (.faulty .headerSum)
    return after
  return rest

/-- What stands in a container, given its head and its foot.  The foot looks at the data and at what
follows it. -/
def unpack (head : List UInt8 → Except Stop (List UInt8))
    (foot : List UInt8 → List UInt8 → Except Stop Unit) (bytes : List UInt8) :
    Except Fault (List UInt8) :=
  match head bytes with
  | .error .truncated => .ok []
  | .error (.faulty fault) => .error fault
  | .ok rest =>
    let made := inflate (bitsOf rest)
    let data := made.output.toList
    match made.ending with
    | .stopped .truncated => .ok data
    | .stopped (.faulty fault) => .error fault
    | .ended bits =>
      match foot data (bytesOfBits bits) with
      | .error (.faulty fault) => .error fault
      | _ => .ok data

/-- Opens the short container. -/
def openShort : List UInt8 → Except Fault (List UInt8) :=
  unpack shortHead fun data bytes => do
    let (sum, _) ← takeBytes 4 bytes
    if numberOf sum.reverse ≠ adlerSum data then .error (.faulty .dataSum)

/-- Reads data without a container. -/
def openBare : List UInt8 → Except Fault (List UInt8) := unpack .ok fun _ _ => .ok ()

/-- Opens the long container. -/
def openLong : List UInt8 → Except Fault (List UInt8) :=
  unpack longHead fun data bytes => do
    let (sum, bytes) ← takeBytes 4 bytes
    if numberOf sum ≠ cyclicSum data then .error (.faulty .dataSum)
    let (length, _) ← takeBytes 4 bytes
    if numberOf length ≠ data.length % 0x100000000 then .error (.faulty .dataLength)

/-- Opens the short container, or reads the data without a container where that fails. -/
def openShortOrBare (bytes : List UInt8) : Except Fault (List UInt8) :=
  match openShort bytes with
  | .ok data => .ok data
  | .error _ => openBare bytes

end Tocsin.Compression
