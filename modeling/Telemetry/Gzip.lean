import Telemetry.Gzip.Inflate

/-!
# Compressed bodies

A compressed body is a sequence of members.  Each has a header, compressed data, and a trailer
with the checksum and the length of its content; zero bytes may fill the space after it.
Bodies that leave the program are written as one member of stored blocks.
-/

namespace Telemetry.Gzip

/-! ### Reading -/

/-- Drop bytes that must be there. -/
def drop? (n : Nat) (bytes : Bytes) : Option Bytes :=
  if bytes.length < n then none else some (bytes.drop n)

/-- Drop the bytes up to and with the next zero byte. -/
def dropName (bytes : Bytes) : Bytes := (bytes.dropWhile (· ≠ 0)).tail

/-- Drop the fields that a header has if a bit of its flags is set. -/
def dropFields? (flags : UInt8) (bytes : Bytes) : Option Bytes := do
  let bytes ←
    if flags &&& 4 = 0 then some bytes
    else
      match bytes with
      | a :: b :: rest => drop? (ofLittleEndian [a, b]) rest
      | _ => none
  let bytes := if flags &&& 8 = 0 then bytes else dropName bytes
  let bytes := if flags &&& 16 = 0 then bytes else dropName bytes
  if flags &&& 2 = 0 then some bytes else drop? 2 bytes

def dropHeader? : Bytes → Option Bytes
  | 0x1F :: 0x8B :: 8 :: flags :: rest => drop? 6 rest >>= dropFields? flags
  | _ => none

/-- The content of the first member, and the bytes after it. -/
def member? (bytes : Bytes) : Option (Bytes × Bytes) := do
  let data ← dropHeader? bytes
  let (content, rest) ← inflate? data
  if rest.length < 8 then none
  else if ofLittleEndian (rest.take 4) ≠ (checksum content).toNat then none
  else if ofLittleEndian ((rest.drop 4).take 4) ≠ content.length % Nat.pow 2 32 then none
  else pure (content, rest.drop 8)

/-- The contents of at most so many members. -/
def members? : Nat → Bytes → Option Bytes
  | _, [] => some []
  | 0, _ :: _ => none
  | fuel + 1, bytes => do
      let (content, rest) ← member? bytes
      let more ← members? fuel (rest.dropWhile (· = 0))
      pure (content ++ more)

def decompress? (bytes : Bytes) : Option Bytes := members? bytes.length bytes

/-! ### Writing -/

/-- The header of a member without names. -/
def header : Bytes := [0x1F, 0x8B, 8, 0, 0, 0, 0, 0, 0, 255]

/-- The most bytes that a stored block holds. -/
def maxStored : Nat := 65535

def storedBlock (last : Bool) (content : Bytes) : Bytes :=
  (if last then 1 else 0) :: littleEndian 2 content.length
    ++ littleEndian 2 (maxStored - content.length) ++ content

/-- The stored blocks of a content; there are enough of them. -/
def storedBlocks : Nat → Bytes → Bytes
  | 0, content => storedBlock true (content.take maxStored)
  | fuel + 1, content =>
      if content.length ≤ maxStored then storedBlock true content
      else storedBlock false (content.take maxStored) ++ storedBlocks fuel (content.drop maxStored)

def compress (content : Bytes) : Bytes :=
  header ++ storedBlocks content.length content
    ++ littleEndian 4 (checksum content).toNat ++ littleEndian 4 content.length

end Telemetry.Gzip
