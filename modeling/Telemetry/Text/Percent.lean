import Telemetry.Text.Hex

/-!
# Percent-encoding

A text inside a path is written byte by byte: the unreserved characters as they are, every
other byte as `%` and two upper-case hexadecimal digits.
-/

namespace Telemetry.Percent

/-- Letters, digits, `_`, `.`, `-` and `~` stand for themselves. -/
def isUnreserved (b : UInt8) : Bool :=
  let c := Char.ofNat b.toNat
  c.isAlphanum || c = '_' || c = '.' || c = '-' || c = '~'

/-- One byte, written with a percent sign. -/
def escapeByte (b : UInt8) : List Char :=
  ['%', (Hex.digit (b.toNat / 16)).toUpper, (Hex.digit (b.toNat % 16)).toUpper]

/-- Write the bytes of a class as they are and all others with a percent sign. -/
def encodeBytes (plain : UInt8 → Bool) (bytes : Bytes) : List Char :=
  bytes.flatMap fun b => if plain b then [Char.ofNat b.toNat] else escapeByte b

def encode (s : String) : String := String.ofList (encodeBytes isUnreserved (Utf8.encode s))

/-- The bytes of a path.  A percent sign without two digits after it stands for itself. -/
def decodeBytes : List Char → Bytes
  | [] => []
  | '%' :: a :: b :: rest =>
      match Hex.value? a, Hex.value? b with
      | some high, some low => UInt8.ofNat (16 * high + low) :: decodeBytes rest
      | _, _ => 37 :: decodeBytes (a :: b :: rest)
  | c :: rest => String.utf8EncodeChar c ++ decodeBytes rest

/-- The text of a path, if its bytes are valid UTF-8. -/
def decode? (s : String) : Option String := Utf8.decode? (decodeBytes s.toList)

end Telemetry.Percent
