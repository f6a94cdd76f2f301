import Telemetry.Text.Utf8

/-!
# Bytes in base sixteen

Each byte is two lower-case digits, the high half first.  `decode?_encode` says that reading
gives back what was written.
-/

namespace Telemetry.Hex

def digit (n : Nat) : Char := Nat.digitChar n

/-- The value of a digit; letters may be of either case. -/
def value? (c : Char) : Option Nat :=
  if '0' ≤ c ∧ c ≤ '9' then some (c.toNat - 48)
  else if 'a' ≤ c ∧ c ≤ 'f' then some (c.toNat - 87)
  else if 'A' ≤ c ∧ c ≤ 'F' then some (c.toNat - 55)
  else none

def encodeByte (b : UInt8) : List Char := [digit (b.toNat / 16), digit (b.toNat % 16)]

def encode (bytes : Bytes) : String := String.ofList (bytes.flatMap encodeByte)

def decodeChars? : List Char → Option Bytes
  | [] => some []
  | [_] => none
  | c :: d :: rest => do
      let high ← value? c
      let low ← value? d
      let bytes ← decodeChars? rest
      pure (UInt8.ofNat (16 * high + low) :: bytes)

/-- The bytes that a text of digits denotes. -/
def decode? (s : String) : Option Bytes := decodeChars? s.toList

theorem value?_digit {n : Nat} (h : n < 16) : value? (digit n) = some n := by
  have all : ∀ n < 16, value? (digit n) = some n := by decide
  exact all n h

theorem decodeChars?_flatMap_encodeByte (bytes : Bytes) :
    decodeChars? (bytes.flatMap encodeByte) = some bytes := by
  induction bytes with
  | nil => rfl
  | cons b rest ih =>
    have hb := b.toNat_lt
    have hsum : UInt8.ofNat (16 * (b.toNat / 16) + b.toNat % 16) = b := by
      rw [Nat.div_add_mod]; exact UInt8.ofNat_toNat
    simp only [List.flatMap_cons, encodeByte, List.cons_append, List.nil_append, decodeChars?,
      value?_digit (show b.toNat / 16 < 16 by omega),
      value?_digit (show b.toNat % 16 < 16 by omega), ih, hsum, Option.bind_eq_bind,
      Option.bind_some, Option.pure_def]

@[simp] theorem decode?_encode (bytes : Bytes) : decode? (encode bytes) = some bytes := by
  simp [decode?, encode, decodeChars?_flatMap_encodeByte]

end Telemetry.Hex
