import Telemetry.Text.Percent

/-!
# Percent-encoded texts

Reading a path byte by byte passes over what has no percent sign (`decodeBytes_append`), and gives
back the bytes of what was written with percent signs (`decodeBytes_encodeBytes`).
-/

namespace Telemetry.Percent

theorem decodeBytes_cons {c : Char} (other : c ≠ '%') (rest : List Char) :
    decodeBytes (c :: rest) = String.utf8EncodeChar c ++ decodeBytes rest := by
  rw [decodeBytes.eq_def]
  split
  next h => cases h
  next h => exact absurd (List.cons.inj h).1 other
  next h =>
    cases h
    rfl

/-- Without percent signs, characters are the bytes that encode them. -/
theorem decodeBytes_append {cs : List Char} (plain : '%' ∉ cs) (rest : List Char) :
    decodeBytes (cs ++ rest) = Utf8.encodeChars cs ++ decodeBytes rest := by
  induction cs with
  | nil => rfl
  | cons c cs ih =>
    obtain ⟨other, plain⟩ := not_or.1 (mt List.mem_cons.2 plain)
    rw [List.cons_append, decodeBytes_cons (Ne.symm other), ih plain, ← List.append_assoc]
    rfl

/-- Without percent signs, a path is the text that it shows. -/
theorem decode?_ofList {cs : List Char} (plain : '%' ∉ cs) :
    decode? (String.ofList cs) = some (String.ofList cs) := by
  have bytes := decodeBytes_append plain []
  have encoded := Utf8.decode?_encode (String.ofList cs)
  rw [List.append_nil, decodeBytes, List.append_nil] at bytes
  rw [Utf8.encode, String.toList_ofList] at encoded
  rw [decode?, String.toList_ofList, bytes, encoded]

/-- The character of an unreserved byte is encoded by it, and is no percent sign. -/
theorem utf8EncodeChar_unreserved {b : UInt8} (h : isUnreserved b = true) :
    Char.ofNat b.toNat ≠ '%' ∧ String.utf8EncodeChar (Char.ofNat b.toNat) = [b] := by
  have all : ∀ n < 256, isUnreserved (UInt8.ofNat n) = true → Char.ofNat n ≠ '%' ∧
      String.utf8EncodeChar (Char.ofNat n) = [UInt8.ofNat n] := by
    decide +kernel
  have same : UInt8.ofNat b.toNat = b := UInt8.ofNat_toNat
  have unreserved := all b.toNat b.toNat_lt
  rw [same] at unreserved
  exact unreserved h

theorem value?_toUpper_digit {n : Nat} (h : n < 16) :
    Hex.value? (Hex.digit n).toUpper = some n := by
  have all : ∀ n < 16, Hex.value? (Hex.digit n).toUpper = some n := by decide
  exact all n h

/-- A byte that is written with a percent sign is read back. -/
theorem decodeBytes_escapeByte (b : UInt8) (rest : List Char) :
    decodeBytes (escapeByte b ++ rest) = b :: decodeBytes rest := by
  have hb := b.toNat_lt
  have high := value?_toUpper_digit (show b.toNat / 16 < 16 by omega)
  have low := value?_toUpper_digit (show b.toNat % 16 < 16 by omega)
  have sum : UInt8.ofNat (16 * (b.toNat / 16) + b.toNat % 16) = b := by
    rw [Nat.div_add_mod]
    exact UInt8.ofNat_toNat
  rw [escapeByte, List.cons_append, List.cons_append, List.cons_append, List.nil_append,
    decodeBytes, high, low]
  dsimp only
  rw [sum]

/-- **What is written with percent signs is read back.** -/
theorem decodeBytes_encodeBytes (bytes : Bytes) (rest : List Char) :
    decodeBytes (encodeBytes isUnreserved bytes ++ rest) = bytes ++ decodeBytes rest := by
  induction bytes with
  | nil => rfl
  | cons b bytes ih =>
    rw [encodeBytes, List.flatMap_cons, List.append_assoc]
    split
    next unreserved =>
      obtain ⟨other, encoded⟩ := utf8EncodeChar_unreserved unreserved
      rw [List.cons_append, List.nil_append, decodeBytes_cons other, encoded]
      exact congrArg (b :: ·) ih
    next => exact (decodeBytes_escapeByte b _).trans (congrArg (b :: ·) ih)

/-- **A text that is written with percent signs is read back.** -/
theorem decode?_encode (s : String) : decode? (encode s) = some s := by
  have bytes := decodeBytes_encodeBytes (Utf8.encode s) []
  rw [List.append_nil, decodeBytes, List.append_nil] at bytes
  rw [decode?, encode, String.toList_ofList, bytes, Utf8.decode?_encode]

theorem encode_injective : Function.Injective encode := by
  intro s t h
  have read := decode?_encode s
  rw [h, decode?_encode t] at read
  exact (Option.some.inj read).symm

/-- A text that is written with percent signs has letters, digits, `_`, `.`, `-`, `~` and percent
signs. -/
theorem mem_encodeBytes {bytes : Bytes} {p : Char → Prop} (percent : p '%')
    (digit : ∀ n < 16, p (Hex.digit n).toUpper)
    (unreserved : ∀ b, isUnreserved b = true → p (Char.ofNat b.toNat)) :
    ∀ c ∈ encodeBytes isUnreserved bytes, p c := by
  intro c hc
  obtain ⟨b, -, hc⟩ := List.mem_flatMap.1 hc
  have hb := b.toNat_lt
  split at hc
  next h =>
    rw [List.mem_singleton.1 hc]
    exact unreserved b h
  next =>
    simp only [escapeByte, List.mem_cons, List.not_mem_nil, or_false] at hc
    rcases hc with rfl | rfl | rfl
    · exact percent
    · exact digit (b.toNat / 16) (by omega)
    · exact digit (b.toNat % 16) (by omega)

end Telemetry.Percent
