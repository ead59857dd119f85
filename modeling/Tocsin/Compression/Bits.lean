/-!
# Streams of bits

Compressed data is read bit by bit, the lowest bit of each byte first.  `takeBits` reads a number
whose lowest bit comes first; a stream that ends too early is told apart from one that is faulty,
since what was read so far still counts.  Every reader leaves a stream that is no longer than it
was.
-/

set_option autoImplicit false

namespace Tocsin.Compression

/-- What may be wrong with compressed data. -/
inductive Fault where
  | headerCheck
  | method
  | window
  | flags
  | headerSum
  | dictionary
  | blockType
  | storedLength
  | tooManySymbols
  | lengthCode
  | repetition
  | noEnd
  | literalCode
  | distanceCode
  | literal
  | distance
  | tooFarBack
  | dataSum
  | dataLength
  deriving DecidableEq, Repr

/-- The wording of a fault. -/
def Fault.message : Fault → String
  | headerCheck => "incorrect header check"
  | method => "unknown compression method"
  | window => "invalid window size"
  | flags => "unknown header flags set"
  | headerSum => "header crc mismatch"
  | dictionary => "need dictionary"
  | blockType => "invalid block type"
  | storedLength => "invalid stored block lengths"
  | tooManySymbols => "too many length or distance symbols"
  | lengthCode => "invalid code lengths set"
  | repetition => "invalid bit length repeat"
  | noEnd => "invalid code -- missing end-of-block"
  | literalCode => "invalid literal/lengths set"
  | distanceCode => "invalid distances set"
  | literal => "invalid literal/length code"
  | distance => "invalid distance code"
  | tooFarBack => "invalid distance too far back"
  | dataSum => "incorrect data check"
  | dataLength => "incorrect length check"

/-- Why reading stops. -/
inductive Stop where
  /-- The data ends. -/
  | truncated
  | faulty (fault : Fault)
  deriving DecidableEq, Repr

/-- What a reader of bits comes to: a result and the rest of the stream, or why it stops. -/
abbrev Taken (α : Type) := Except Stop (α × List Bool)

/-- The bits of a byte, lowest first. -/
def bitsOfByte (b : UInt8) : List Bool := (List.range 8).map fun i => b.toNat.testBit i

/-- The bits of some bytes. -/
def bitsOf (bytes : List UInt8) : List Bool := bytes.flatMap bitsOfByte

/-- Reads a number of a given number of bits, lowest first. -/
def takeBits : Nat → List Bool → Taken Nat
  | 0, bits => .ok (0, bits)
  | _ + 1, [] => .error .truncated
  | n + 1, bit :: bits =>
    match takeBits n bits with
    | .ok (value, rest) => .ok (bit.toNat + 2 * value, rest)
    | .error stop => .error stop

/-- Skips the bits up to the next whole byte of the stream. -/
def skipToByte (bits : List Bool) : List Bool := bits.drop (bits.length % 8)

/-- Reading a number takes as many bits as it has. -/
theorem length_takeBits {n : Nat} {bits rest : List Bool} {value : Nat}
    (h : takeBits n bits = .ok (value, rest)) : rest.length + n = bits.length := by
  induction n generalizing bits value with
  | zero =>
    simp only [takeBits, Except.ok.injEq, Prod.mk.injEq] at h
    simp [h.2]
  | succ n ih =>
    cases bits with
    | nil => simp [takeBits] at h
    | cons bit bits =>
      simp only [takeBits] at h
      split at h
      next v r hr =>
        simp only [Except.ok.injEq, Prod.mk.injEq] at h
        obtain ⟨-, rfl⟩ := h
        have := ih hr
        simp only [List.length_cons]
        omega
      next => simp at h

end Tocsin.Compression
