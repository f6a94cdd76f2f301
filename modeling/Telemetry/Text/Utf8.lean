/-!
# Bytes and text

Texts go over the wire and onto disk as UTF-8.  `Utf8.encode` writes a text and
`Utf8.decode?` reads one, refusing every byte sequence that is not valid.  `Utf8.decodeLossy` reads
all bytes and puts a replacement character where they say nothing; it is `Utf8.decode?` on all that
this reads (`decodeLossy_of_decode?`).
-/

namespace Telemetry

abbrev Bytes := List UInt8

namespace Utf8

def encodeChars (cs : List Char) : Bytes := cs.flatMap String.utf8EncodeChar

def encode (s : String) : Bytes := encodeChars s.toList

/-- The text that the bytes encode, if they are valid UTF-8. -/
def decode? (bytes : Bytes) : Option String := String.fromUTF8? bytes.toByteArray

@[simp] theorem encodeChars_append (cs ds : List Char) :
    encodeChars (cs ++ ds) = encodeChars cs ++ encodeChars ds := List.flatMap_append

theorem toByteArray_encode (s : String) : (encode s).toByteArray = s.toByteArray :=
  congrArg String.toByteArray (String.ofList_toList : String.ofList s.toList = s)

@[simp] theorem decode?_encode (s : String) : decode? (encode s) = some s := by
  simp only [decode?, toByteArray_encode, String.fromUTF8?]
  exact dif_pos s.isValidUTF8

/-- The text of bytes that each stand for the character of their own number. -/
def decodeLatin (bytes : Bytes) : String := String.ofList (bytes.map fun b => Char.ofNat b.toNat)

/-! ### Bytes that are not all text -/

/-- The first and last byte that may stand in each place behind a first byte.  No place is behind a
byte that is a character of its own, or that begins none. -/
def places (first : UInt8) : List (UInt8 × UInt8) :=
  let tail := (0x80, 0xBF)
  if first < 0xC2 then []
  else if first < 0xE0 then [tail]
  else if first = 0xE0 then [(0xA0, 0xBF), tail]
  else if first = 0xED then [(0x80, 0x9F), tail]
  else if first < 0xF0 then [tail, tail]
  else if first = 0xF0 then [(0x90, 0xBF), tail, tail]
  else if first < 0xF4 then [tail, tail, tail]
  else if first = 0xF4 then [(0x80, 0x8F), tail, tail]
  else []

/-- How many bytes go into their places before one does not. -/
def fitting : List (UInt8 × UInt8) → Bytes → Nat
  | (low, high) :: places, b :: bytes =>
    if low ≤ b ∧ b ≤ high then fitting places bytes + 1 else 0
  | _, _ => 0

/-- The characters of bytes, with one replacement character for what begins a character and breaks
off, and one for each byte that begins none. -/
def decodeLossyChars : Bytes → List Char
  | [] => []
  | first :: rest =>
    match (first :: rest.take 3).toByteArray.utf8DecodeChar? 0 with
    | some c => c :: decodeLossyChars (rest.drop (c.utf8Size - 1))
    | none => '\uFFFD' :: decodeLossyChars (rest.drop (fitting (places first) rest))
termination_by bytes => bytes.length

def decodeLossy (bytes : Bytes) : String := String.ofList (decodeLossyChars bytes)

theorem decodeLossyChars_append (c : Char) (bytes : Bytes) :
    decodeLossyChars (String.utf8EncodeChar c ++ bytes) = c :: decodeLossyChars bytes := by
  cases encoded : String.utf8EncodeChar c with
  | nil => exact absurd encoded String.utf8EncodeChar_ne_nil
  | cons first rest =>
    have size : rest.length + 1 = c.utf8Size := by
      rw [← String.length_utf8EncodeChar, encoded, List.length_cons]
    have short : rest.length ≤ 3 := by
      have := c.utf8Size_le_four
      omega
    have front : (first :: (rest ++ bytes).take 3).toByteArray.utf8DecodeChar? 0 = some c := by
      rw [List.take_append, List.take_of_length_le short, ← List.cons_append, ← encoded,
        List.toByteArray_append, ByteArray.utf8DecodeChar?_utf8EncodeChar_append]
    rw [List.cons_append, decodeLossyChars, front]
    dsimp only
    rw [List.drop_left' (by omega)]

@[simp] theorem decodeLossyChars_encodeChars (cs : List Char) :
    decodeLossyChars (encodeChars cs) = cs := by
  induction cs with
  | nil => rw [encodeChars, List.flatMap_nil, decodeLossyChars]
  | cons c cs ih =>
    rw [encodeChars, List.flatMap_cons, decodeLossyChars_append]
    exact congrArg (c :: ·) ih

/-- Bytes that are a text are read as it. -/
theorem decodeLossy_of_decode? {bytes : Bytes} {s : String} (h : decode? bytes = some s) :
    decodeLossy bytes = s := by
  unfold decode? String.fromUTF8? at h
  split at h
  next =>
    have text : (encode s).toByteArray = bytes.toByteArray := by
      rw [toByteArray_encode, ← Option.some.inj h]
      rfl
    rw [← List.toByteArray_inj.1 text, decodeLossy, encode, decodeLossyChars_encodeChars,
      String.ofList_toList]
  next => cases h

/-- A euro sign that breaks off in front of a letter. -/
example : decodeLossyChars [0xE2, 0x82, 0x41] = ['\uFFFD', 'A'] := by
  cbv

end Utf8
end Telemetry
