import Telemetry.Gzip.Checksum

/-!
# Compressed data

Compressed data is a sequence of blocks.  A block is stored as it is, or is a sequence of
literal bytes and of copies from what came before, written in two prefix codes, which are
either fixed or described at its start.  `inflate?` reads all blocks and gives their content
and the bytes after them.
-/

namespace Telemetry.Gzip

/-! ### Bits -/

/-- A position among bits: some bits of the first byte have been read. -/
structure Bits where
  /-- How many bits of the first byte have been read. -/
  used : Nat
  bytes : Bytes

namespace Bits

/-- The next bit; the low bits of a byte come first. -/
def next? (bits : Bits) : Option (Nat × Bits) :=
  match bits.bytes with
  | [] => none
  | b :: rest =>
      let bit := (b.toNat >>> bits.used) % 2
      if bits.used = 7 then some (bit, ⟨0, rest⟩) else some (bit, ⟨bits.used + 1, b :: rest⟩)

/-- A number of some bits, the low ones first. -/
def number? : Nat → Bits → Option (Nat × Bits)
  | 0, bits => some (0, bits)
  | width + 1, bits => do
      let (bit, bits) ← bits.next?
      let (n, bits) ← number? width bits
      pure (bit + 2 * n, bits)

/-- The bytes after the one that is being read. -/
def wholeBytes (bits : Bits) : Bytes := if bits.used = 0 then bits.bytes else bits.bytes.tail

/-- The number of bits left, at least. -/
def bound (bits : Bits) : Nat := 8 * bits.bytes.length

end Bits

/-! ### Prefix codes -/

/-- The longest code word. -/
def maxLength : Nat := 15

/-- A prefix code: how many code words there are of each length from one, and the symbols in
the order of their code words. -/
structure Code where
  counts : List Nat
  symbols : Array Nat

namespace Code

/-- The code in which each symbol has a word of a given length; none for length zero. -/
def ofLengths (lengths : List Nat) : Code where
  counts := (List.range maxLength).map fun i => lengths.count (i + 1)
  symbols := ((List.range maxLength).flatMap fun i =>
    (lengths.zipIdx.filter fun e => e.1 = i + 1).map (·.2)).toArray

/-- The code words left over after all lengths, in words of the greatest length; none if there
are more words than a code can have. -/
def leftOver? : Nat → List Nat → Option Nat
  | left, [] => some left
  | left, count :: counts => if 2 * left < count then none else leftOver? (2 * left - count) counts

/-- The code of some lengths, if it can be used: it has all its words, or `sparse` allows that
it has at most one word, of one bit. -/
def ofLengths? (sparse : Bool) (lengths : List Nat) : Option Code :=
  let code := ofLengths lengths
  match leftOver? 1 code.counts with
  | none => none
  | some 0 => some code
  | some _ => if sparse && code.counts.tail.all (· = 0) then some code else none

/-- Read a symbol, given the word so far, the first word of the next length and its index. -/
def readFrom? (symbols : Array Nat) (word first index : Nat) :
    List Nat → Bits → Option (Nat × Bits)
  | [], _ => none
  | count :: counts, bits => do
      let (bit, bits) ← bits.next?
      let word := word + bit
      if word < first + count then
        let symbol ← symbols[index + (word - first)]?
        pure (symbol, bits)
      else readFrom? symbols (2 * word) (2 * (first + count)) (index + count) counts bits

def read? (code : Code) (bits : Bits) : Option (Nat × Bits) :=
  readFrom? code.symbols 0 0 0 code.counts bits

end Code

/-! ### Blocks -/

/-- The least copy of each length symbol, and how many bits are added to it. -/
def copyLengths : Array (Nat × Nat) :=
  #[(3, 0), (4, 0), (5, 0), (6, 0), (7, 0), (8, 0), (9, 0), (10, 0), (11, 1), (13, 1), (15, 1),
    (17, 1), (19, 2), (23, 2), (27, 2), (31, 2), (35, 3), (43, 3), (51, 3), (59, 3), (67, 4),
    (83, 4), (99, 4), (115, 4), (131, 5), (163, 5), (195, 5), (227, 5), (258, 0)]

/-- The least distance of each distance symbol, and how many bits are added to it. -/
def copyDistances : Array (Nat × Nat) :=
  #[(1, 0), (2, 0), (3, 0), (4, 0), (5, 1), (7, 1), (9, 2), (13, 2), (17, 3), (25, 3), (33, 4),
    (49, 4), (65, 5), (97, 5), (129, 6), (193, 6), (257, 7), (385, 7), (513, 8), (769, 8),
    (1025, 9), (1537, 9), (2049, 10), (3073, 10), (4097, 11), (6145, 11), (8193, 12),
    (12289, 12), (16385, 13), (24577, 13)]

/-- A number given by a symbol and the bits after it. -/
def extended? (table : Array (Nat × Nat)) (symbol : Nat) (bits : Bits) : Option (Nat × Bits) := do
  let (least, width) ← table[symbol]?
  let (more, bits) ← Bits.number? width bits
  pure (least + more, bits)

/-- Copy bytes from some distance before the end. -/
def copy (distance : Nat) : Nat → Array UInt8 → Array UInt8
  | 0, out => out
  | length + 1, out => copy distance length (out.push (out[out.size - distance]?.getD 0))

def readSymbols? (literals distances : Code) : Nat → Array UInt8 → Bits →
    Option (Array UInt8 × Bits)
  | 0, _, _ => none
  | fuel + 1, out, bits => do
      let (symbol, bits) ← literals.read? bits
      if symbol < 256 then readSymbols? literals distances fuel (out.push (UInt8.ofNat symbol)) bits
      else if symbol = 256 then pure (out, bits)
      else
        let (length, bits) ← extended? copyLengths (symbol - 257) bits
        let (symbol, bits) ← distances.read? bits
        let (distance, bits) ← extended? copyDistances symbol bits
        if out.size < distance then none
        else readSymbols? literals distances fuel (copy distance length out) bits

def fixedLiterals : Code :=
  .ofLengths (List.replicate 144 8 ++ List.replicate 112 9 ++ List.replicate 24 7
    ++ List.replicate 8 8)

def fixedDistances : Code := .ofLengths (List.replicate 32 5)

/-- The order in which the lengths of the code of lengths are given. -/
def lengthOrder : List Nat := [16, 17, 18, 0, 8, 7, 9, 6, 10, 5, 11, 4, 12, 3, 13, 2, 14, 1, 15]

def readPlainLengths? : Nat → Bits → Option (List Nat × Bits)
  | 0, bits => some ([], bits)
  | count + 1, bits => do
      let (length, bits) ← Bits.number? 3 bits
      let (lengths, bits) ← readPlainLengths? count bits
      pure (length :: lengths, bits)

/-- Read code lengths up to a total, in a code of lengths and repetitions; those read so far
come last first. -/
def readLengths? (code : Code) (total : Nat) : Nat → List Nat → Bits → Option (List Nat × Bits)
  | 0, _, _ => none
  | fuel + 1, lengths, bits =>
      if lengths.length = total then some (lengths.reverse, bits)
      else do
        let (symbol, bits) ← code.read? bits
        let (repeated, bits) ←
          if symbol < 16 then some ([symbol], bits)
          else if symbol = 16 then do
            let previous ← lengths.head?
            let (n, bits) ← Bits.number? 2 bits
            some (List.replicate (n + 3) previous, bits)
          else if symbol = 17 then do
            let (n, bits) ← Bits.number? 3 bits
            some (List.replicate (n + 3) 0, bits)
          else do
            let (n, bits) ← Bits.number? 7 bits
            some (List.replicate (n + 11) 0, bits)
        if total < lengths.length + repeated.length then none
        else readLengths? code total fuel (repeated ++ lengths) bits

def readCodes? (bits : Bits) : Option ((Code × Code) × Bits) := do
  let (literals, bits) ← Bits.number? 5 bits
  let (distances, bits) ← Bits.number? 5 bits
  let (count, bits) ← Bits.number? 4 bits
  let literals := literals + 257
  let distances := distances + 1
  if 286 < literals || 30 < distances then none
  else
    let (given, bits) ← readPlainLengths? (count + 4) bits
    let lengthOf (symbol : Nat) : Nat := ((lengthOrder.zip given).lookup symbol).getD 0
    let code ← Code.ofLengths? false ((List.range 19).map lengthOf)
    let (lengths, bits) ←
      readLengths? code (literals + distances) (literals + distances + 1) [] bits
    if lengths[256]? = some 0 then none
    else
      let first ← Code.ofLengths? true (lengths.take literals)
      let second ← Code.ofLengths? true (lengths.drop literals)
      pure ((first, second), bits)

def readStored? (out : Array UInt8) (bits : Bits) : Option (Array UInt8 × Bits) :=
  match bits.wholeBytes with
  | a :: b :: c :: d :: rest =>
      let length := ofLittleEndian [a, b]
      if length + ofLittleEndian [c, d] ≠ 65535 then none
      else if rest.length < length then none
      else some (out ++ (rest.take length).toArray, ⟨0, rest.drop length⟩)
  | _ => none

/-- Read blocks up to the last one. -/
def readBlocks? : Nat → Array UInt8 → Bits → Option (Array UInt8 × Bits)
  | 0, _, _ => none
  | fuel + 1, out, bits => do
      let (last, bits) ← bits.next?
      let (kind, bits) ← Bits.number? 2 bits
      let (out, bits) ←
        match kind with
        | 0 => readStored? out bits
        | 1 => readSymbols? fixedLiterals fixedDistances (bits.bound + 1) out bits
        | 2 => do
            let ((literals, distances), bits) ← readCodes? bits
            readSymbols? literals distances (bits.bound + 1) out bits
        | _ => none
      if last = 1 then pure (out, bits) else readBlocks? fuel out bits

/-- The content of compressed data, and the bytes after it. -/
def inflate? (bytes : Bytes) : Option (Bytes × Bytes) := do
  let (out, bits) ← readBlocks? (8 * bytes.length + 1) #[] ⟨0, bytes⟩
  pure (out.toList, bits.wholeBytes)

end Telemetry.Gzip
