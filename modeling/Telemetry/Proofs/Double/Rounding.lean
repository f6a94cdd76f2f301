import Mathlib.Algebra.Group.Nat.Defs
import Telemetry.Double.Decimal

/-!
# Rounding

The rank nearest to a quotient depends on the quotient only (`nearestRank_mul_right`), and the
units of a rank are nearest to the rank itself (`nearestRank_unitsOfRank`).  The cutoffs for
decimal numbers that are past the finite range or nearest to zero save work and change nothing
(`ofDecimal_eq`), so a zero at the end of the digits can be moved into the exponent
(`ofDecimal_mul_ten`).
-/

namespace Telemetry.Double

/-! ### Division -/

theorem divideHalfEven_mul_right (a b : Nat) {k : Nat} (hk : 0 < k) :
    divideHalfEven (a * k) (b * k) = divideHalfEven a b := by
  have half : 2 * (a * k % (b * k)) = 2 * (a % b) * k := by
    rw [Nat.mul_mod_mul_right, Nat.mul_assoc]
  simp only [divideHalfEven, half, Nat.mul_div_mul_right a b hk, Nat.mul_lt_mul_right hk]

theorem divideHalfEven_mul_self (q : Nat) {b : Nat} (hb : 0 < b) :
    divideHalfEven (q * b) b = q := by
  simp [divideHalfEven, Nat.mul_div_cancel q hb, hb]

theorem le_divideHalfEven (a b : Nat) : a / b ≤ divideHalfEven a b := by
  unfold divideHalfEven
  dsimp only
  split
  · exact Nat.le_refl _
  · split
    · exact Nat.le_add_right _ _
    · exact Nat.le_add_right _ _

/-! ### The nearest rank -/

theorem nearestRank_def (a b : Nat) :
    nearestRank a b = ((a / b).log2 - 52) * binade
      + divideHalfEven a (b * 2 ^ ((a / b).log2 - 52)) := rfl

/-- **The nearest rank depends on the quotient only.** -/
theorem nearestRank_mul_right (a b : Nat) {k : Nat} (hk : 0 < k) :
    nearestRank (a * k) (b * k) = nearestRank a b := by
  rw [nearestRank_def, nearestRank_def, Nat.mul_div_mul_right a b hk, Nat.mul_right_comm b k,
    divideHalfEven_mul_right _ _ hk]

/-- The binary length of the units of a rank with all its 53 bits. -/
theorem log2_units {f k : Nat} (hf : f < binade) :
    ((binade + f) * Nat.pow 2 k).log2 = 52 + k := by
  have hbinade : binade = 2 ^ 52 := rfl
  have positive : 0 < 2 ^ k := Nat.two_pow_pos k
  have hne : (binade + f) * 2 ^ k ≠ 0 := by
    refine Nat.mul_ne_zero ?_ (Nat.ne_of_gt positive)
    rw [hbinade]
    omega
  refine (Nat.log2_eq_iff hne).2 ⟨?_, ?_⟩
  · rw [Nat.pow_add, ← hbinade]
    exact Nat.mul_le_mul_right _ (Nat.le_add_right _ _)
  · rw [Nat.add_right_comm, Nat.pow_add, Nat.mul_lt_mul_right positive, Nat.pow_succ, ← hbinade]
    omega

/-- **The units of a rank are nearest to the rank.** -/
theorem nearestRank_unitsOfRank (rank : Nat) : nearestRank (unitsOfRank rank) 1 = rank := by
  have hbinade : binade = 2 ^ 52 := rfl
  have positive : 0 < binade := by rw [hbinade]; exact Nat.two_pow_pos 52
  unfold unitsOfRank
  rw [nearestRank_def]
  split
  next small =>
    -- Below the first power of two, a rank is its own number of units.
    have short : rank.log2 - 52 = 0 := by
      by_cases h : rank = 0
      · rw [h]
        rfl
      · have := (Nat.log2_lt h).2 (hbinade ▸ small)
        omega
    have whole := divideHalfEven_mul_self rank Nat.one_pos
    rw [Nat.mul_one] at whole
    rw [Nat.div_one, short, Nat.zero_mul, Nat.zero_add]
    exact whole
  next large =>
    -- Above it, a rank splits into its binade and the place of it there, and all 53 bits count.
    have split := Nat.div_add_mod rank binade
    have first : 1 ≤ rank / binade := (Nat.one_le_div_iff positive).2 (Nat.not_lt.1 large)
    have power : 0 < 2 ^ (rank / binade - 1) := Nat.two_pow_pos _
    rw [Nat.div_one, log2_units (Nat.mod_lt rank positive), Nat.add_sub_cancel_left, Nat.one_mul,
      Nat.pow_eq, divideHalfEven_mul_self _ power]
    have shifted : (rank / binade - 1) * binade + binade = binade * (rank / binade) := by
      rw [← Nat.succ_mul, Nat.succ_eq_add_one, Nat.sub_add_cancel first, Nat.mul_comm]
    omega

theorem nearestRank_eq_zero {a b : Nat} (h : 2 * a < b) : nearestRank a b = 0 := by
  have small : a < b := by omega
  simp [nearestRank, divideHalfEven, Nat.div_eq_of_lt small, Nat.mod_eq_of_lt small, h]

/-- What is past the finite range is nearest to no finite rank. -/
theorem finiteCount_le_nearestRank {a : Nat} (h : 2 ^ 2098 ≤ a) :
    finiteCount ≤ nearestRank a 1 := by
  have hne : a ≠ 0 := by
    rintro rfl
    exact Nat.not_le.2 (Nat.two_pow_pos 2098) h
  have length : 2098 ≤ a.log2 := (Nat.le_log2 hne).2 h
  have bits : binade ≤ a / 2 ^ (a.log2 - 52) := by
    rw [Nat.le_div_iff_mul_le (Nat.two_pow_pos _)]
    have hbinade : binade = 2 ^ 52 := rfl
    rw [hbinade, ← Nat.pow_add, Nat.add_sub_cancel' (Nat.le_trans (by decide) length)]
    exact Nat.log2_self_le hne
  have rounded := Nat.le_trans bits (le_divideHalfEven a (2 ^ (a.log2 - 52)))
  have shift : 2046 * binade ≤ (a.log2 - 52) * binade := Nat.mul_le_mul_right _ (by omega)
  have count : finiteCount = 2046 * binade + binade := rfl
  rw [nearestRank_def, Nat.div_one, Nat.one_mul, count]
  exact Nat.add_le_add shift rounded

/-! ### Decimal numbers -/

theorem scale_eq : scale = 2 ^ 1074 := by
  unfold scale
  exact Nat.pow_eq

/-- A decimal number of more than 310 digits is past the finite range. -/
theorem past_finite {digits exponent : Nat} (hdigits : digits ≠ 0) (h : 310 < exponent) :
    2 ^ 2098 ≤ digits * 10 ^ exponent * scale := by
  have powers : 2 ^ 1024 ≤ 10 ^ 311 := by decide +kernel
  have larger : 10 ^ 311 ≤ digits * 10 ^ exponent := by
    refine Nat.le_trans ?_ (Nat.le_mul_of_pos_left _ (Nat.pos_of_ne_zero hdigits))
    exact Nat.pow_le_pow_right (by decide) h
  rw [scale_eq, show 2098 = 1024 + 1074 from rfl, Nat.pow_add]
  exact Nat.mul_le_mul_right _ (Nat.le_trans powers larger)

/-- A decimal number is nearest to zero if its exponent takes away all digits and 400 more. -/
theorem nearest_zero {digits exponent : Nat} (h : digits.log2 + 400 < exponent) :
    2 * (digits * scale) < 10 ^ exponent := by
  have short : digits < 2 ^ (exponent - 400) :=
    Nat.lt_of_lt_of_le Nat.lt_log2_self (Nat.pow_le_pow_right (by decide) (by omega))
  -- A power of ten is one of two and one of five, and that of five makes up for the scale.
  have fives : 2 ^ 675 ≤ 5 ^ exponent := calc
    2 ^ 675 ≤ 2 ^ (2 * exponent) := Nat.pow_le_pow_right (by decide) (by omega)
    _ = 4 ^ exponent := Nat.pow_mul 2 2 exponent
    _ ≤ 5 ^ exponent := Nat.pow_le_pow_left (by decide) exponent
  calc 2 * (digits * scale)
      < 2 * (2 ^ (exponent - 400) * 2 ^ 1074) := by
        rw [scale_eq]
        exact Nat.mul_lt_mul_of_pos_left
          ((Nat.mul_lt_mul_right (Nat.two_pow_pos 1074)).2 short) (by decide)
    _ = 2 ^ exponent * 2 ^ 675 := by
        have sum : exponent - 400 + 1074 + 1 = exponent + 675 := by omega
        rw [← Nat.pow_add, ← Nat.pow_add, ← Nat.pow_succ', Nat.succ_eq_add_one, sum]
    _ ≤ 2 ^ exponent * 5 ^ exponent := Nat.mul_le_mul_left _ fives
    _ = 10 ^ exponent := (Nat.mul_pow 2 5 exponent).symm

/-- **The cutoffs change nothing**: a decimal number is read as the double of the rank nearest to
it. -/
theorem ofDecimal_eq (negative : Bool) (digits : Nat) (exponent : Int) :
    ofDecimal negative digits exponent
      = ofRank negative
          (nearestRank (digits * 10 ^ exponent.toNat * scale) (10 ^ (-exponent).toNat)) := by
  unfold ofDecimal
  split
  next h =>
    rw [h, Nat.zero_mul, Nat.zero_mul, nearestRank_eq_zero (Nat.pow_pos (by decide))]
  next hdigits =>
    split
    next hexponent =>
      have whole : (-exponent).toNat = 0 := by omega
      rw [whole, Nat.pow_zero]
      split
      next large =>
        have past := finiteCount_le_nearestRank
          (past_finite hdigits (show 310 < exponent.toNat by omega))
        rw [ofRank, dif_neg (Nat.not_lt.2 past)]
      next => rfl
    next hexponent =>
      have fraction : exponent.toNat = 0 := by omega
      have length : (-exponent).toNat = exponent.natAbs := by omega
      rw [fraction, length, Nat.pow_zero, Nat.mul_one]
      split
      next small => rw [nearestRank_eq_zero (nearest_zero small)]
      next => rfl

/-- **A zero at the end of the digits can be moved into the exponent.** -/
theorem ofDecimal_mul_ten (negative : Bool) (digits : Nat) (exponent : Int) :
    ofDecimal negative (digits * 10) exponent = ofDecimal negative digits (exponent + 1) := by
  rw [ofDecimal_eq, ofDecimal_eq]
  -- A power of ten counts in the numerator or in the denominator, as the sign of its exponent is.
  by_cases h : 0 ≤ exponent
  · have power : (exponent + 1).toNat = exponent.toNat + 1 := by omega
    have whole : (-exponent).toNat = 0 := by omega
    have whole' : (-(exponent + 1)).toNat = 0 := by omega
    rw [power, whole, whole', Nat.pow_succ, Nat.mul_assoc digits 10, Nat.mul_comm 10]
  · have power : exponent.toNat = 0 := by omega
    have power' : (exponent + 1).toNat = 0 := by omega
    have fraction : (-exponent).toNat = (-(exponent + 1)).toNat + 1 := by omega
    rw [power, power', fraction, Nat.pow_zero, Nat.mul_one, Nat.mul_one, Nat.pow_succ,
      Nat.mul_right_comm, nearestRank_mul_right _ _ (by decide)]

/-- So can any number of them. -/
theorem ofDecimal_mul_pow (negative : Bool) (digits n : Nat) (exponent : Int) :
    ofDecimal negative (digits * 10 ^ n) exponent = ofDecimal negative digits (exponent + n) := by
  induction n generalizing exponent with
  | zero => simp
  | succ n ih =>
    rw [Nat.pow_succ, ← Nat.mul_assoc, ofDecimal_mul_ten, ih]
    congr 1
    omega

/-- The sign of a decimal number has no part in its rounding. -/
theorem ofDecimal_sign {digits : Nat} {exponent : Int} {rank : Fin finiteCount}
    (h : ofDecimal false digits exponent = finite false rank) (negative : Bool) :
    ofDecimal negative digits exponent = finite negative rank := by
  rw [ofDecimal_eq] at h ⊢
  unfold ofRank at h
  split at h
  next small =>
    cases h
    exact dif_pos small
  next => cases h

end Telemetry.Double
