import Tocsin.Compression.Code

/-!
# Inflating

Deflated data is a row of blocks.  A block is stored as it is, or it is a text of words in two
prefix codes, which are fixed or described in front of it: a word of the first code is a byte, the
end of the block, or the length of a match, and a word of the second one follows a length and tells
how far back the match starts.  `inflate` reads blocks until the last one ends, the data ends, or
something in it is wrong, and gives the bytes that were made until then.
-/

set_option autoImplicit false

namespace Tocsin.Compression

/-- How inflating ends. -/
inductive Ending where
  /-- The last block ended; the rest of the stream is left. -/
  | ended (rest : List Bool)
  | stopped (stop : Stop)
  deriving DecidableEq, Repr

/-- The bytes that were made, and how it ended. -/
structure Inflated where
  output : Array UInt8
  ending : Ending
  deriving DecidableEq, Repr

/-- A range of numbers: the first one, and how many bits tell the place in the range. -/
abbrev Span := Nat × Nat

/-- The ranges of the lengths of matches, by the words above the end of the block. -/
def lengthSpans : List Span :=
  [(3, 0), (4, 0), (5, 0), (6, 0), (7, 0), (8, 0), (9, 0), (10, 0), (11, 1), (13, 1), (15, 1),
   (17, 1), (19, 2), (23, 2), (27, 2), (31, 2), (35, 3), (43, 3), (51, 3), (59, 3), (67, 4),
   (83, 4), (99, 4), (115, 4), (131, 5), (163, 5), (195, 5), (227, 5), (258, 0)]

/-- The ranges of the distances of matches. -/
def distanceSpans : List Span :=
  [(1, 0), (2, 0), (3, 0), (4, 0), (5, 1), (7, 1), (9, 2), (13, 2), (17, 3), (25, 3), (33, 4),
   (49, 4), (65, 5), (97, 5), (129, 6), (193, 6), (257, 7), (385, 7), (513, 8), (769, 8),
   (1025, 9), (1537, 9), (2049, 10), (3073, 10), (4097, 11), (6145, 11), (8193, 12), (12289, 12),
   (16385, 13), (24577, 13)]

/-- Reads a number of a range, if there is a range. -/
def readSpan (fault : Fault) (span : Option Span) (bits : List Bool) : Taken Nat :=
  match span with
  | none => .error (.faulty fault)
  | some (first, extra) => (takeBits extra bits).map fun (place, rest) => (first + place, rest)

/-- A number of a range takes no bits back. -/
theorem length_readSpan {fault : Fault} {span : Option Span} {bits rest : List Bool} {n : Nat}
    (h : readSpan fault span bits = .ok (n, rest)) : rest.length ≤ bits.length := by
  unfold readSpan at h
  split at h
  · cases h
  · next first extra =>
    cases ht : takeBits extra bits with
    | error stop => simp [ht, Except.map] at h
    | ok p =>
      simp only [ht, Except.map, Except.ok.injEq, Prod.mk.injEq] at h
      have : p.2.length + extra = bits.length := length_takeBits ht
      rw [← h.2]
      omega

/-- Repeats bytes of the output: as many as the length says, starting as far back as the distance
says. -/
def repeatBack (output : Array UInt8) (distance : Nat) : Nat → Array UInt8
  | 0 => output
  | length + 1 =>
    repeatBack (output.push (output[output.size - distance]?.getD 0)) distance length

/-- The word that ends a block. -/
def blockEnd : Nat := 256

/-- Reads a distance. -/
def readDistance (distances : PrefixCode) (bits : List Bool) : Taken Nat :=
  match distances.read bits with
  | .error stop => .error stop
  | .ok (word, bits) => readSpan .distance (word.bind (distanceSpans[·]?)) bits

/-- A distance takes no bits back. -/
theorem length_readDistance {distances : PrefixCode} {bits rest : List Bool} {n : Nat}
    (h : readDistance distances bits = .ok (n, rest)) : rest.length ≤ bits.length := by
  unfold readDistance at h
  split at h
  · cases h
  · next word bits' hr =>
    have := length_readSpan h
    have := PrefixCode.length_read hr
    omega

/-- What a word of the first code of a block is. -/
inductive Word where
  | byte (b : UInt8)
  | finish
  | back (distance length : Nat)

/-- Reads a word, and the distance behind it if it is a length. -/
def readWord (literals distances : PrefixCode) (bits : List Bool) : Taken Word :=
  match literals.read bits with
  | .error stop => .error stop
  | .ok (none, _) => .error (.faulty .literal)
  | .ok (some word, rest) =>
    if word < blockEnd then .ok (.byte word.toUInt8, rest)
    else if word = blockEnd then .ok (.finish, rest)
    else
      match readSpan .literal lengthSpans[word - blockEnd - 1]? rest with
      | .error stop => .error stop
      | .ok (length, rest) =>
        (readDistance distances rest).map fun (distance, rest) => (.back distance length, rest)

/-- A word has at least one bit. -/
theorem length_readWord {literals distances : PrefixCode} {bits rest : List Bool} {word : Word}
    (h : readWord literals distances bits = .ok (word, rest)) : rest.length < bits.length := by
  unfold readWord at h
  split at h
  · cases h
  · cases h
  · next word' rest' hr =>
    have hlt := PrefixCode.length_read hr
    split at h
    · cases h
      exact hlt
    · split at h
      · cases h
        exact hlt
      · split at h
        · cases h
        · next length rest'' hs =>
          have hle := length_readSpan hs
          cases hd : readDistance distances rest'' with
          | error stop => simp [hd, Except.map] at h
          | ok p =>
            simp only [hd, Except.map, Except.ok.injEq, Prod.mk.injEq] at h
            have : p.2.length ≤ rest''.length := length_readDistance hd
            rw [← h.2]
            omega

/-- Reads the words of a block. -/
def inflateWords (literals distances : PrefixCode) (output : Array UInt8) (bits : List Bool) :
    Inflated :=
  match _read : readWord literals distances bits with
  | .error stop => ⟨output, .stopped stop⟩
  | .ok (.finish, rest) => ⟨output, .ended rest⟩
  | .ok (.byte b, rest) => inflateWords literals distances (output.push b) rest
  | .ok (.back distance length, rest) =>
    if output.size < distance then ⟨output, .stopped (.faulty .tooFarBack)⟩
    else inflateWords literals distances (repeatBack output distance length) rest
termination_by bits.length
decreasing_by all_goals exact length_readWord _read

/-- The fixed code of bytes and lengths. -/
def fixedLiterals : PrefixCode :=
  .ofLengths (List.replicate 144 8 ++ List.replicate 112 9 ++ List.replicate 24 7
    ++ List.replicate 8 8)

/-- The fixed code of distances. -/
def fixedDistances : PrefixCode := .ofLengths (List.replicate 32 5)

/-- The order in which the lengths of the words for lengths are written. -/
def lengthOrder : List Nat :=
  [16, 17, 18, 0, 8, 7, 9, 6, 10, 5, 11, 4, 12, 3, 13, 2, 14, 1, 15]

/-- Reads numbers of three bits. -/
def readTriples : Nat → List Bool → Except Stop (List Nat × List Bool)
  | 0, bits => .ok ([], bits)
  | count + 1, bits => do
    let (n, bits) ← takeBits 3 bits
    let (ns, bits) ← readTriples count bits
    return (n :: ns, bits)

/-- Reads lengths of words until there are as many as wanted.  A word below 16 is a length itself;
the others repeat the last length or zero. -/
def readLengths (code : PrefixCode) (wanted : Nat) (known : Array Nat) (bits : List Bool) :
    Except Stop (Array Nat × List Bool) := do
  if _open : known.size < wanted then
    let (word?, bits) ← code.read bits
    let word := word?.getD 0
    if word < 16 then readLengths code wanted (known.push word) bits
    else
      let (least, extra) := if word = 16 then (3, 2) else if word = 17 then (3, 3) else (11, 7)
      let (more, bits) ← takeBits extra bits
      let times := least + more
      match if word = 16 then known.back? else some 0 with
      | none => .error (.faulty .repetition)
      | some length =>
        if wanted < known.size + times then .error (.faulty .repetition)
        else if times = 0 then .error (.faulty .repetition)
        else readLengths code wanted (known ++ Array.replicate times length) bits
  else .ok (known, bits)
termination_by wanted - known.size
decreasing_by
  · simp only [Array.size_push]; omega
  · simp only [Array.size_append, Array.size_replicate]; omega

/-- Reads the two codes of a block. -/
def readCodes (bits : List Bool) :
    Except Stop ((PrefixCode × PrefixCode) × List Bool) := do
  let (literalCount, bits) ← takeBits 5 bits
  let (distanceCount, bits) ← takeBits 5 bits
  let (lengthCount, bits) ← takeBits 4 bits
  let literalCount := literalCount + 257
  let distanceCount := distanceCount + 1
  if 286 < literalCount ∨ 30 < distanceCount then .error (.faulty .tooManySymbols)
  let (written, bits) ← readTriples (lengthCount + 4) bits
  let places := lengthOrder.zip written
  let lengths := (List.range 19).map fun word => (places.lookup word).getD 0
  if !(lengths.all (· = 0) || PrefixCode.isComplete lengths) then .error (.faulty .lengthCode)
  let (known, bits) ←
    readLengths (.ofLengths lengths) (literalCount + distanceCount) #[] bits
  let literals := known.toList.take literalCount
  let distances := known.toList.drop literalCount
  if literals[blockEnd]? = some 0 then .error (.faulty .noEnd)
  if !PrefixCode.isUsable literals then .error (.faulty .literalCode)
  if !PrefixCode.isUsable distances then .error (.faulty .distanceCode)
  return ((.ofLengths literals, .ofLengths distances), bits)

/-- Copies bytes as they are. -/
def copyBytes (output : Array UInt8) : Nat → List Bool → Inflated
  | 0, bits => ⟨output, .ended bits⟩
  | count + 1, bits =>
    match takeBits 8 bits with
    | .ok (byte, bits) => copyBytes (output.push byte.toUInt8) count bits
    | .error stop => ⟨output, .stopped stop⟩

/-- Reads a block that is stored as it is. -/
def inflateStored (output : Array UInt8) (bits : List Bool) : Inflated :=
  match takeBits 32 (skipToByte bits) with
  | .error stop => ⟨output, .stopped stop⟩
  | .ok (lengths, bits) =>
    let length := lengths % 0x10000
    if length + lengths / 0x10000 = 0xffff then copyBytes output length bits
    else ⟨output, .stopped (.faulty .storedLength)⟩

/-- Reads what follows the head of a block of a kind. -/
def inflateBlock (kind : Nat) (output : Array UInt8) (bits : List Bool) : Inflated :=
  match kind with
  | 0 => inflateStored output bits
  | 1 => inflateWords fixedLiterals fixedDistances output bits
  | 2 =>
    match readCodes bits with
    | .error stop => ⟨output, .stopped stop⟩
    | .ok ((literals, distances), bits) => inflateWords literals distances output bits
  | _ => ⟨output, .stopped (.faulty .blockType)⟩

/-- Reads blocks behind what was made before. -/
def inflateFrom (output : Array UInt8) (bits : List Bool) : Inflated :=
  match takeBits 3 bits with
  | .error stop => ⟨output, .stopped stop⟩
  | .ok (head, rest) =>
    let made := inflateBlock (head / 2) output rest
    match made.ending with
    | .stopped _ => made
    | .ended rest =>
      if head % 2 = 1 then made
      else if _shorter : rest.length < bits.length then inflateFrom made.output rest
      else made
termination_by bits.length

/-- Reads blocks. -/
def inflate (bits : List Bool) : Inflated := inflateFrom #[] bits

end Tocsin.Compression
