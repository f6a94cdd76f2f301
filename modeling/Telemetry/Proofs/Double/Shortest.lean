import Telemetry.Proofs.Double.Rounding

/-!
# Digits that read back

Whichever digits are chosen for a double, they are read as that double
(`toDouble_shortest`): a short choice is only taken after it has been read back, and the exact
expansion denotes the very number of units.
-/

namespace Telemetry.Double

theorem toDouble_trim (negative : Bool) (fuel : Nat) (d : Decimal) :
    (d.trim fuel).toDouble negative = d.toDouble negative := by
  induction fuel generalizing d with
  | zero => rfl
  | succ fuel ih =>
    rw [Decimal.trim]
    split
    next h =>
      have digits : d.digits / 10 * 10 = d.digits := by omega
      rw [ih, Decimal.toDouble, ← ofDecimal_mul_ten, digits]
      rfl
    next => rfl

/-- Of two candidates, one is chosen that passes a test. -/
theorem passes_of_choice {f : Decimal → Bool} {below above d : Decimal} {near : Bool}
    (h : (match f below, f above with
      | true, true => some (if near then below else above)
      | true, false => some below
      | false, true => some above
      | false, false => none) = some d) : f d = true := by
  split at h
  next hbelow habove =>
    cases near with
    | true =>
      cases h
      exact hbelow
    | false =>
      cases h
      exact habove
  next hbelow _ =>
    cases h
    exact hbelow
  next _ habove =>
    cases h
    exact habove
  next => cases h

/-- Digits of some length are only given after they have been read back. -/
theorem toDouble_digitsOfLength? {rank units count : Nat} {top : Int} {d : Decimal}
    (h : digitsOfLength? rank units top count = some d) : d.toDouble false = ofRank false rank :=
  of_decide_eq_true (passes_of_choice
    (f := fun d => decide (d.toDouble false = ofRank false rank)) h)

/-- The exact expansion of a magnitude denotes it. -/
theorem toDouble_expansion (rank : Nat) :
    Decimal.toDouble false ⟨unitsOfRank rank * Nat.pow 5 1074, -1074⟩ = ofRank false rank := by
  have expanded : unitsOfRank rank * 5 ^ 1074 * 2 ^ 1074 = unitsOfRank rank * 10 ^ 1074 := by
    rw [Nat.mul_assoc, ← Nat.mul_pow]
  rw [Decimal.toDouble, ofDecimal_eq]
  show ofRank false (nearestRank (unitsOfRank rank * Nat.pow 5 1074 * 10 ^ 0 * scale) (10 ^ 1074))
    = ofRank false rank
  rw [Nat.pow_zero, Nat.mul_one, Nat.pow_eq, scale_eq, expanded]
  have power : 0 < 10 ^ 1074 := Nat.pow_pos (by decide)
  have whole := nearestRank_mul_right (unitsOfRank rank) 1 power
  rw [Nat.one_mul, nearestRank_unitsOfRank] at whole
  rw [whole]

/-- **The digits chosen for a magnitude are read as that magnitude**, with either sign. -/
theorem toDouble_shortest (negative : Bool) (rank : Fin finiteCount) :
    (shortest rank.val).toDouble negative = finite negative rank := by
  have finite_eq : ofRank false rank.val = finite false rank := dif_pos rank.isLt
  have reads : (shortest rank.val).toDouble false = finite false rank := by
    rw [← finite_eq, shortest]
    split
    next h =>
      rw [h]
      rfl
    next =>
      dsimp only
      split
      next d h =>
        -- Whichever length was found first, its digits have been read back.
        obtain ⟨i, -, hd⟩ := List.exists_of_findSome?_eq_some h
        rw [toDouble_trim, toDouble_digitsOfLength? hd]
      next => exact toDouble_expansion rank.val
  exact ofDecimal_sign reads negative

/-- Only zero has no digits. -/
theorem digits_shortest {rank : Fin finiteCount} (h : rank.val ≠ 0) :
    (shortest rank.val).digits ≠ 0 := by
  intro hdigits
  have reads := toDouble_shortest false rank
  rw [Decimal.toDouble, hdigits, ofDecimal, if_pos rfl] at reads
  cases (dif_pos (by decide)).symm.trans reads
  exact h rfl

end Telemetry.Double
