import Mathlib.Algebra.Group.Nat.Defs
import Mathlib.Data.List.TakeDrop
import Telemetry.Text.Numeral

/-!
# Digits of whole numbers

The digits of a number denote it (`ofDigits_toDigits`), zeros in front do not matter, and zeros
at the end multiply.  Digits in front of anything else are split off as a whole
(`splitDigits_append`).
-/

namespace Telemetry.Text

theorem isDigit_toDigits {n : Nat} {c : Char} (h : c ∈ Nat.toDigits 10 n) : c.isDigit = true :=
  Nat.isDigit_of_mem_toDigits (by decide) (by decide) h

/-- What holds of ten characters holds of every digit. -/
@[elab_as_elim]
theorem forall_digit {motive : Char → Prop} {c : Char} (digit : c.isDigit = true)
    (ten : ∀ n < 58, 48 ≤ n → motive (Char.ofNat n)) : motive c := by
  obtain ⟨low, high⟩ := Char.isDigit_iff_toNat.1 digit
  have one := ten c.toNat (Nat.lt_succ_of_le high) low
  rwa [Char.ofNat_toNat] at one

/-- **The digits of a number denote it.** -/
theorem ofDigits_toDigits (n : Nat) : ofDigits (Nat.toDigits 10 n) = n :=
  Nat.ofDigitChars_ten_toDigits

/-- Digits at the end are those of lowest value. -/
theorem ofDigits_append (ds es : List Char) :
    ofDigits (ds ++ es) = ofDigits ds * 10 ^ es.length + ofDigits es := by
  have split : Nat.ofDigitChars 10 (ds ++ es) 0
      = 10 ^ es.length * Nat.ofDigitChars 10 ds 0 + Nat.ofDigitChars 10 es 0 := by
    rw [Nat.ofDigitChars_append, Nat.ofDigitChars_eq_ofDigitChars_zero]
  rw [Nat.mul_comm]
  exact split

theorem ofDigits_replicate_zero (n : Nat) : ofDigits (List.replicate n '0') = 0 := by
  have zeros : Nat.ofDigitChars 10 (List.replicate n '0') 0 = 10 ^ n * 0 :=
    Nat.ofDigitChars_replicate_zero
  exact zeros

theorem ofDigits_zeros_append (n : Nat) (ds : List Char) :
    ofDigits (List.replicate n '0' ++ ds) = ofDigits ds := by
  rw [ofDigits_append, ofDigits_replicate_zero, Nat.zero_mul, Nat.zero_add]

theorem ofDigits_append_zeros (n : Nat) (ds : List Char) :
    ofDigits (ds ++ List.replicate n '0') = ofDigits ds * 10 ^ n := by
  rw [ofDigits_append, ofDigits_replicate_zero, List.length_replicate, Nat.add_zero]

/-- **Only zero starts with a zero.** -/
theorem toDigits_head {n : Nat} (hn : n ≠ 0) {ds : List Char} : Nat.toDigits 10 n ≠ '0' :: ds := by
  induction n using Nat.strongRecOn generalizing ds with
  | _ n ih =>
    intro h
    by_cases small : n < 10
    · rw [Nat.toDigits_of_lt_base small, List.cons.injEq, Nat.digitChar_eq_zero] at h
      exact hn h.1
    · rw [Nat.toDigits_of_base_le (by decide) (by omega)] at h
      cases hquotient : Nat.toDigits 10 (n / 10) with
      | nil => exact Nat.toDigits_ne_nil hquotient
      | cons c cs =>
        rw [hquotient, List.cons_append, List.cons.injEq] at h
        rw [h.1] at hquotient
        exact ih (n / 10) (by omega) (by omega) hquotient

/-- **Digits in front of anything else are split off as a whole.** -/
theorem splitDigits_append {ds rest : List Char} (digits : ∀ c ∈ ds, c.isDigit = true)
    (ends : ∀ c, rest.head? = some c → c.isDigit = false) :
    Numeral.splitDigits (ds ++ rest) = (ds, rest) := by
  rw [Numeral.splitDigits, List.span_eq_takeWhile_dropWhile, List.takeWhile_append_of_pos digits,
    List.dropWhile_append_of_pos digits]
  cases rest with
  | nil => rw [List.takeWhile_nil, List.dropWhile_nil, List.append_nil]
  | cons c rest =>
    have other : ¬ c.isDigit = true := by
      rw [ends c rfl]
      decide
    rw [List.takeWhile_cons_of_neg other, List.dropWhile_cons_of_neg other, List.append_nil]

end Telemetry.Text
