import Telemetry.Signature

/-!
# Signatures are accepted

A code is written in digits that no trimming and no change of case touches (`normal_code`), and it
is not empty.  So a body is accepted with the signature that the same key gives it
(`verify_sign`), also if that has letters of the other case or blanks around it, and with nothing
else (`normal_eq_code_iff`).
-/

namespace Telemetry

namespace Text

theorem dropWhile_append_of_all {blank : Char → Bool} {before : List Char}
    (all : ∀ c ∈ before, blank c = true) (rest : List Char) :
    (before ++ rest).dropWhile blank = rest.dropWhile blank := by
  induction before with
  | nil => rfl
  | cons c before ih =>
    rw [List.cons_append, List.dropWhile_cons_of_pos (all c List.mem_cons_self)]
    exact ih fun d hd => all d (List.mem_cons_of_mem c hd)

/-- What is trimmed off are blanks around the rest. -/
theorem exists_trim (blank : Char → Bool) (cs : List Char) :
    ∃ before after, cs = before ++ trim blank cs ++ after ∧
      (∀ c ∈ before, blank c = true) ∧ ∀ c ∈ after, blank c = true := by
  refine ⟨cs.takeWhile blank, ((cs.dropWhile blank).reverse.takeWhile blank).reverse, ?_,
    fun c hc => List.all_eq_true.1 List.all_takeWhile c hc,
    fun c hc => List.all_eq_true.1 List.all_takeWhile c (List.mem_reverse.1 hc)⟩
  rw [trim, List.append_assoc, ← List.reverse_append, List.takeWhile_append_dropWhile,
    List.reverse_reverse, List.takeWhile_append_dropWhile]

/-- Blanks around a text without blanks are trimmed off. -/
theorem trim_append {blank : Char → Bool} {before core after : List Char}
    (blank_before : ∀ c ∈ before, blank c = true) (blank_after : ∀ c ∈ after, blank c = true)
    (plain : ∀ c ∈ core, blank c = false) : trim blank (before ++ core ++ after) = core := by
  have stays {ds : List Char} (plain : ∀ c ∈ ds, blank c = false) (nonempty : ds ≠ []) (rest) :
      (ds ++ rest).dropWhile blank = ds ++ rest := by
    cases ds with
    | nil => exact absurd rfl nonempty
    | cons d ds => exact List.dropWhile_cons_of_neg (by simp [plain d List.mem_cons_self])
  rw [trim, List.append_assoc, dropWhile_append_of_all blank_before]
  by_cases empty : core = []
  · have none_left : after.dropWhile blank = [] := by
      simpa using dropWhile_append_of_all blank_after []
    rw [empty, List.nil_append, none_left]
    rfl
  · have reversed : ∀ c ∈ core.reverse, blank c = false :=
      fun c hc => plain c (List.mem_reverse.1 hc)
    have ends := stays reversed (by simpa using empty) []
    rw [List.append_nil] at ends
    rw [stays plain empty, List.reverse_append,
      dropWhile_append_of_all fun c hc => blank_after c (List.mem_reverse.1 hc), ends,
      List.reverse_reverse]

theorem toLower_eq_self {c : Char} (h : ¬ (65 ≤ c.toNat ∧ c.toNat ≤ 90)) : c.toLower = c := by
  refine dif_neg ?_
  rintro ⟨low, high⟩
  have low : 65 ≤ c.toNat := UInt32.le_iff_toNat_le.1 low
  have high : c.toNat ≤ 90 := UInt32.le_iff_toNat_le.1 high
  exact h ⟨low, high⟩

end Text

namespace Hex

/-- The sixteen lower-case digits. -/
def IsDigit (c : Char) : Prop := ∃ n, n < 16 ∧ c = digit n

theorem isDigit_of_mem_encode {bytes : Bytes} {c : Char} (h : c ∈ (encode bytes).toList) :
    IsDigit c := by
  rw [encode, String.toList_ofList, List.mem_flatMap] at h
  obtain ⟨b, -, hc⟩ := h
  have hb := b.toNat_lt
  rcases List.mem_cons.1 hc with rfl | hc
  · exact ⟨b.toNat / 16, by omega, rfl⟩
  · exact ⟨b.toNat % 16, by omega, List.mem_singleton.1 hc⟩

/-- A digit is no blank, is of lower case, and is of ASCII. -/
theorem IsDigit.plain {c : Char} (h : IsDigit c) :
    Text.isBlank c = false ∧ Text.lowerChar c = c ∧ Text.isAscii c = true := by
  obtain ⟨n, hn, rfl⟩ := h
  have all : ∀ n < 16, Text.isBlank (digit n) = false ∧ Text.lowerChar (digit n) = digit n
      ∧ Text.isAscii (digit n) = true := by decide
  exact all n hn

namespace IsDigit

variable {c d : Char} (digit : IsDigit d)
include digit

/-- The Kelvin sign, whose lower case is a letter of ASCII, makes no difference to the digits. -/
theorem lowerChar_eq_iff : Text.lowerChar c = d ↔ c.toLower = d := by
  unfold Text.lowerChar
  split
  next kelvin =>
    have same : c = Char.ofNat 0x212A := Char.toNat_inj.1 kelvin
    have others : ∀ n < 16, 'k' ≠ Hex.digit n ∧ (Char.ofNat 0x212A).toLower ≠ Hex.digit n := by
      decide
    obtain ⟨n, hn, rfl⟩ := digit
    rw [same]
    exact iff_of_false (others n hn).1 (others n hn).2
  next => exact Iff.rfl

theorem not_isBlank_of_toLower (h : c.toLower = d) : Text.isBlank c = false := by
  by_cases upper : 65 ≤ c.toNat ∧ c.toNat ≤ 90
  · unfold Text.isBlank Text.isWhiteSpace
    simp
    omega
  · rw [Text.toLower_eq_self upper] at h
    rw [h]
    exact digit.plain.1

end IsDigit

theorem encode_ne_empty {bytes : Bytes} (h : bytes ≠ []) : encode bytes ≠ "" := by
  intro empty
  have decoded := decode?_encode bytes
  rw [empty] at decoded
  exact h (Option.some.inj decoded).symm

end Hex

theorem Sha256.hmac_ne_nil (key message : Bytes) : hmac key message ≠ [] := by
  intro empty
  have length := congrArg List.length empty
  rw [hmac, hash, State.toBytes] at length
  simp [bigEndian] at length

namespace Guard

variable (guard : Guard) (body : Bytes)

/-- A code is in the form in which signatures are compared. -/
theorem normal_code : normal (guard.code body) = guard.code body := by
  have digits : ∀ c ∈ (guard.code body).toList, Hex.IsDigit c :=
    fun _ hc => Hex.isDigit_of_mem_encode hc
  have lower : (guard.code body).toList.map Text.lowerChar = (guard.code body).toList :=
    List.map_congr_left (fun c hc => (digits c hc).plain.2.1) |>.trans (List.map_id _)
  rw [normal, Text.trim_eq_self fun c hc => (digits c hc).plain.1, lower, String.ofList_toList]

theorem code_ne_empty : guard.code body ≠ "" := Hex.encode_ne_empty (Sha256.hmac_ne_nil _ _)

theorem isAscii_code : (guard.code body).toList.all Text.isAscii = true :=
  List.all_eq_true.2 fun _ hc => (Hex.isDigit_of_mem_encode hc).plain.2.2

/-- **A body is accepted with its own signature.** -/
theorem verify_code : guard.verify body (some (guard.code body)) = .accepted := by
  unfold verify
  split
  · rfl
  · dsimp only
    rw [if_neg (guard.code_ne_empty body), normal_code, isAscii_code]
    rw [if_neg (by decide), if_pos rfl]

theorem verify_sign : guard.verify body (guard.sign body) = .accepted := by
  by_cases enabled : guard.enabled = true
  · rw [sign, if_pos enabled]
    exact guard.verify_code body
  · unfold verify
    rw [if_pos (by simp [enabled])]

/-- A text is a code but for blanks around it and the case of its letters. -/
def IsVariant (signature code : String) : Prop :=
  ∃ before core after, signature.toList = before ++ core ++ after ∧
    (∀ c ∈ before, Text.isBlank c = true) ∧ (∀ c ∈ after, Text.isBlank c = true) ∧
    core.map Char.toLower = code.toList

theorem map_lowerChar_eq_iff {core digits : List Char} (all : ∀ d ∈ digits, Hex.IsDigit d) :
    core.map Text.lowerChar = digits ↔ core.map Char.toLower = digits := by
  induction core generalizing digits with
  | nil => exact Iff.rfl
  | cons c core ih =>
    cases digits with
    | nil => simp
    | cons d digits =>
      have tail := @ih digits fun e he => all e (List.mem_cons_of_mem d he)
      rw [List.map_cons, List.map_cons, List.cons.injEq, List.cons.injEq, tail,
        (all d List.mem_cons_self).lowerChar_eq_iff]

/-- **Exactly the variants of a code have it for their normal form.** -/
theorem normal_eq_code_iff {guard : Guard} {signature : String} {body : Bytes} :
    normal signature = guard.code body ↔ IsVariant signature (guard.code body) := by
  have digits : ∀ d ∈ (guard.code body).toList, Hex.IsDigit d :=
    fun _ hd => Hex.isDigit_of_mem_encode hd
  have same : normal signature = guard.code body ↔
      (Text.trim Text.isBlank signature.toList).map Text.lowerChar = (guard.code body).toList := by
    rw [normal, ← String.toList_inj, String.toList_ofList]
  rw [same, map_lowerChar_eq_iff digits]
  constructor
  · intro lower
    obtain ⟨before, after, whole, blank_before, blank_after⟩ :=
      Text.exists_trim Text.isBlank signature.toList
    exact ⟨before, _, after, whole, blank_before, blank_after, lower⟩
  · rintro ⟨before, core, after, whole, blank_before, blank_after, lower⟩
    have plain : ∀ c ∈ core, Text.isBlank c = false := fun c hc => by
      have digit : c.toLower ∈ (guard.code body).toList := lower ▸ List.mem_map_of_mem hc
      exact (digits _ digit).not_isBlank_of_toLower rfl
    rw [whole, Text.trim_append blank_before blank_after plain]
    exact lower

end Guard
end Telemetry
