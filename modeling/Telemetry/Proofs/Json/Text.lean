import Telemetry.Json.Reader
import Telemetry.Json.Writer

/-!
# Strings read back

A character inside a string is written as itself, as an escape of one letter, or by number; past
the first plane a number is two halves.  Reading a string scans the units of its characters
(`scanString_writeChar`) and joins the halves (`joinHalves_units`), so every string is read back
(`readString_write`).
-/

namespace Telemetry.Json

open Text

/-! ### Numbers in base sixteen -/

theorem hexNumber_four {n : Nat} (h : n < 0x10000) :
    hexNumber 4 n = [Hex.digit (n / 0x1000), Hex.digit (n / 0x100 % 16), Hex.digit (n / 16 % 16),
      Hex.digit (n % 16)] := by
  have zero : Hex.digit 0 = '0' := rfl
  unfold hexNumber
  rw [Nat.toDigits_eq_if (by decide)]
  split
  next one =>
    have low : n % 16 = n := Nat.mod_eq_of_lt one
    rw [Nat.div_eq_of_lt (by omega), Nat.div_eq_of_lt (by omega), Nat.div_eq_of_lt one, low]
    rfl
  next =>
    rw [Nat.toDigits_eq_if (by decide)]
    split
    next two =>
      have low : n / 16 % 16 = n / 16 := Nat.mod_eq_of_lt two
      rw [Nat.div_eq_of_lt (show n < 0x1000 by omega), Nat.div_eq_of_lt (show n < 0x100 by omega),
        low]
      rfl
    next =>
      rw [Nat.toDigits_eq_if (by decide)]
      split
      next three =>
        have low : n / 0x100 % 16 = n / 0x100 := Nat.mod_eq_of_lt (by omega)
        have middle : n / 16 / 16 = n / 0x100 := by omega
        rw [Nat.div_eq_of_lt (show n < 0x1000 by omega), low, middle]
        rfl
      next =>
        have high : n / 16 / 16 / 16 = n / 0x1000 := by omega
        have middle : n / 16 / 16 = n / 0x100 := by omega
        rw [Nat.toDigits_of_lt_base (by omega), high, middle]
        rfl

/-- **A unit that is escaped by number is read back.** -/
theorem scanString_escapeUnit {n : Nat} (h : n < 0x10000) (rest : List Char) :
    scanString (escapeUnit n ++ rest)
      = (scanString rest).map fun read => (n :: read.1, read.2) := by
  have value : hex4? (Hex.digit (n / 0x1000)) (Hex.digit (n / 0x100 % 16))
      (Hex.digit (n / 16 % 16)) (Hex.digit (n % 16)) = some n := by
    have sum : ((n / 0x1000 * 16 + n / 0x100 % 16) * 16 + n / 16 % 16) * 16 + n % 16 = n := by
      omega
    rw [hex4?, Hex.value?_digit (by omega), Hex.value?_digit (Nat.mod_lt _ (by decide)),
      Hex.value?_digit (Nat.mod_lt _ (by decide)), Hex.value?_digit (Nat.mod_lt _ (by decide))]
    show some (((n / 0x1000 * 16 + n / 0x100 % 16) * 16 + n / 16 % 16) * 16 + n % 16) = some n
    rw [sum]
  rw [escapeUnit, hexNumber_four h]
  show scanString ('\\' :: 'u' :: _ :: _ :: _ :: _ :: rest) = _
  rw [scanString, value]
  cases scanString rest <;> rfl

/-! ### Characters -/

/-- The units that a character is read as. -/
def units (asciiOnly : Bool) (c : Char) : List Nat :=
  if asciiOnly && 0x10000 ≤ c.toNat then
    [0xD800 + (c.toNat - 0x10000) / 0x400, 0xDC00 + (c.toNat - 0x10000) % 0x400]
  else [c.toNat]

/-- A character that is escaped by a letter is read back. -/
theorem scanString_escapeLetter {letter c : Char} (h : simpleEscape? letter = some c)
    (hu : letter ≠ 'u') (rest : List Char) :
    scanString ('\\' :: letter :: rest)
      = (scanString rest).map fun read => (c.toNat :: read.1, read.2) := by
  rw [scanString]
  · rw [h]
    cases scanString rest <;> rfl
  · intro a b c d more heq _
    exact absurd heq hu

/-- A character that is written as itself is read back. -/
theorem scanString_self {c : Char} (quote : c ≠ '\x22') (backslash : c ≠ '\\')
    (control : ¬ c.toNat < 0x20) (rest : List Char) :
    scanString (c :: rest) = (scanString rest).map fun read => (c.toNat :: read.1, read.2) := by
  rw [scanString]
  · rw [if_neg (by simp [backslash, control])]
    cases scanString rest <;> rfl
  · intro h
    exact absurd h quote
  · intro a b c d more h
    exact absurd h backslash
  · intro a more h
    exact absurd h backslash

/-- No character is half of another. -/
theorem toNat_range (c : Char) :
    c.toNat < 0xD800 ∨ 0xDFFF < c.toNat ∧ c.toNat < 0x110000 := c.valid

theorem units_of_lt (asciiOnly : Bool) {c : Char} (h : c.toNat < 0x10000) :
    units asciiOnly c = [c.toNat] := by
  rw [units, if_neg]
  simp [h]

theorem scanString_escapeByNumber (c : Char) (rest : List Char) :
    scanString (escapeByNumber c ++ rest)
      = (scanString rest).map fun read => (units true c ++ read.1, read.2) := by
  have range := toNat_range c
  unfold escapeByNumber
  split
  next plane =>
    rw [units_of_lt true plane]
    exact scanString_escapeUnit plane rest
  next past =>
    have high : 0xD800 + (c.toNat - 0x10000) / 0x400 < 0x10000 := by omega
    have low : 0xDC00 + (c.toNat - 0x10000) % 0x400 < 0x10000 := by omega
    have pair : units true c = [0xD800 + (c.toNat - 0x10000) / 0x400,
        0xDC00 + (c.toNat - 0x10000) % 0x400] :=
      if_pos (by simpa using Nat.not_lt.1 past)
    rw [pair]
    dsimp only
    rw [List.append_assoc, scanString_escapeUnit high, scanString_escapeUnit low, Option.map_map]
    rfl

/-- A character is written as an escape of one letter, by number, or as itself. -/
theorem writeChar_cases (asciiOnly : Bool) (c : Char) :
    (∃ letter, writeChar asciiOnly c = ['\\', letter] ∧ simpleEscape? letter = some c
        ∧ letter ≠ 'u' ∧ c.toNat < 0x10000)
      ∨ (writeChar asciiOnly c = escapeByNumber c ∧ units asciiOnly c = units true c)
      ∨ (writeChar asciiOnly c = [c] ∧ c ≠ '\x22' ∧ c ≠ '\\' ∧ ¬ c.toNat < 0x20
        ∧ units asciiOnly c = [c.toNat]) := by
  by_cases quote : c = '\x22'
  · exact Or.inl ⟨'\x22', by rw [quote]; rfl, by rw [quote]; rfl, by decide, by rw [quote]; decide⟩
  by_cases backslash : c = '\\'
  · exact Or.inl ⟨'\\', by rw [backslash]; rfl, by rw [backslash]; rfl, by decide,
      by rw [backslash]; decide⟩
  by_cases back : c = '\x08'
  · exact Or.inl ⟨'b', by rw [back]; rfl, by rw [back]; rfl, by decide, by rw [back]; decide⟩
  by_cases feed : c = '\x0c'
  · exact Or.inl ⟨'f', by rw [feed]; rfl, by rw [feed]; rfl, by decide, by rw [feed]; decide⟩
  by_cases line : c = '\n'
  · exact Or.inl ⟨'n', by rw [line]; rfl, by rw [line]; rfl, by decide, by rw [line]; decide⟩
  by_cases carriage : c = '\r'
  · exact Or.inl ⟨'r', by rw [carriage]; rfl, by rw [carriage]; rfl, by decide,
      by rw [carriage]; decide⟩
  by_cases tab : c = '\t'
  · exact Or.inl ⟨'t', by rw [tab]; rfl, by rw [tab]; rfl, by decide, by rw [tab]; decide⟩
  refine Or.inr ?_
  rw [writeChar, if_neg quote, if_neg backslash, if_neg back, if_neg feed, if_neg line,
    if_neg carriage, if_neg tab]
  by_cases control : c.toNat < 0x20
  · have plane : c.toNat < 0x10000 := by omega
    rw [if_pos control, units_of_lt asciiOnly plane, units_of_lt true plane]
    exact Or.inl ⟨rfl, rfl⟩
  rw [if_neg control]
  cases asciiOnly with
  | false =>
    exact Or.inr ⟨rfl, quote, backslash, control, rfl⟩
  | true =>
    by_cases high : 0x7F ≤ c.toNat
    · rw [if_pos (by simpa using high)]
      exact Or.inl ⟨rfl, rfl⟩
    · rw [if_neg (by simpa using high), units_of_lt true (by omega)]
      exact Or.inr ⟨rfl, quote, backslash, control, rfl⟩

/-- **The units of a character are scanned**, however it was written. -/
theorem scanString_writeChar (asciiOnly : Bool) (c : Char) (rest : List Char) :
    scanString (writeChar asciiOnly c ++ rest)
      = (scanString rest).map fun read => (units asciiOnly c ++ read.1, read.2) := by
  obtain ⟨letter, written, escape, other, plane⟩ | ⟨written, same⟩
    | ⟨written, quote, backslash, control, single⟩ := writeChar_cases asciiOnly c
  · rw [written, units_of_lt asciiOnly plane]
    exact scanString_escapeLetter escape other rest
  · rw [written, same]
    exact scanString_escapeByNumber c rest
  · rw [written, single]
    exact scanString_self quote backslash control rest

/-! ### Strings -/

/-- **The halves of a character are joined.** -/
theorem joinHalves_units (asciiOnly : Bool) (c : Char) (more : List Nat) :
    joinHalves (units asciiOnly c ++ more) = (c :: ·) <$> joinHalves more := by
  have range := toNat_range c
  unfold units
  split
  next past =>
    simp only [Bool.and_eq_true, decide_eq_true_eq] at past
    have high : isHighHalf (0xD800 + (c.toNat - 0x10000) / 0x400) = true := by
      simp only [isHighHalf, Bool.and_eq_true, decide_eq_true_eq]
      omega
    have low : isLowHalf (0xDC00 + (c.toNat - 0x10000) % 0x400) = true := by
      simp only [isLowHalf, Bool.and_eq_true, decide_eq_true_eq]
      omega
    have joined : 0x10000 + (0xD800 + (c.toNat - 0x10000) / 0x400 - 0xD800) * 0x400
        + (0xDC00 + (c.toNat - 0x10000) % 0x400 - 0xDC00) = c.toNat := by
      omega
    show joinHalves (_ :: _ :: more) = _
    rw [joinHalves, high, low, joined, Char.ofNat_toNat]
    rfl
  next =>
    have high : isHighHalf c.toNat = false := by
      simp only [isHighHalf, Bool.and_eq_false_iff, decide_eq_false_iff_not]
      omega
    have low : isLowHalf c.toNat = false := by
      simp only [isLowHalf, Bool.and_eq_false_iff, decide_eq_false_iff_not]
      omega
    cases more with
    | nil => simp [joinHalves, high, low]
    | cons next more => simp [joinHalves, high, low]

theorem scanString_flatMap (asciiOnly : Bool) (cs rest : List Char) :
    scanString (cs.flatMap (writeChar asciiOnly) ++ '\x22' :: rest)
      = some (cs.flatMap (units asciiOnly), rest) := by
  induction cs with
  | nil => rw [List.flatMap_nil, List.flatMap_nil, List.nil_append, scanString]
  | cons c cs ih =>
    rw [List.flatMap_cons, List.flatMap_cons, List.append_assoc, scanString_writeChar, ih]
    rfl

theorem joinHalves_flatMap (asciiOnly : Bool) (cs : List Char) :
    joinHalves (cs.flatMap (units asciiOnly)) = some cs := by
  induction cs with
  | nil => rfl
  | cons c cs ih =>
    rw [List.flatMap_cons, joinHalves_units, ih]
    rfl

/-- **Every string is read back**, whether or not its characters were escaped. -/
theorem readString_write (asciiOnly : Bool) (s : String) (rest : List Char) :
    readString (s.toList.flatMap (writeChar asciiOnly) ++ '\x22' :: rest) = some (s, rest) := by
  have text : String.ofList s.toList = s := String.ofList_toList
  rw [readString, scanString_flatMap]
  show ((joinHalves (s.toList.flatMap (units asciiOnly))).bind fun chars =>
    some (String.ofList chars, rest)) = some (s, rest)
  rw [joinHalves_flatMap, Option.bind_some, text]

end Telemetry.Json
