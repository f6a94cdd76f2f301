import Telemetry.Proofs.Metric.Plain

/-!
# The number of a double

Two doubles are the same number if they are equal or have the same units.  Ranks are told apart by
their units (`unitsOfRank_injective`), so that only the two zeros are one number without being
equal, and a double is known as a number once the sign of zero is dropped (`sameNumber_iff`).
-/

namespace Telemetry.Double

open Cell.inRealColumn (plainZero)

variable {x y : Double} {negative : Bool} {rank : Fin finiteCount}

/-- Two doubles that are the same number: equal, or finite with the same signed magnitude. -/
def SameNumber (x y : Double) : Prop :=
  x = y ∨ ∃ units, x.units? = some units ∧ y.units? = some units

/-- **A rank is known by its units.** -/
theorem unitsOfRank_injective {r s : Nat} (same : unitsOfRank r = unitsOfRank s) : r = s := by
  rw [← nearestRank_unitsOfRank r, same, nearestRank_unitsOfRank]

/-- A signed magnitude is zero only if the magnitude is. -/
theorem unitsOfRank_of_units?_zero (h : (finite negative rank).units? = some 0) :
    unitsOfRank rank.val = 0 := by
  cases negative with
  | true => exact Int.natCast_eq_zero.1 (Int.neg_eq_zero.1 (Option.some.inj h))
  | false => exact Int.natCast_eq_zero.1 (Option.some.inj h)

/-- Zero is the one whole number that has no units. -/
theorem units?_eq_zero_iff : x.units? = some 0 ↔ x.toInt? = some 0 := by
  cases x with
  | nan => exact ⟨nofun, nofun⟩
  | infinity => exact ⟨nofun, nofun⟩
  | finite negative rank =>
    constructor
    · intro h
      have none := unitsOfRank_of_units?_zero h
      rw [toInt?]
      cases negative <;> simp [none]
    · intro h
      obtain ⟨n, units, zero⟩ := exists_of_toInt? h
      have hn : n = 0 := by
        cases negative with
        | true => exact Int.natCast_eq_zero.1 (Int.neg_eq_zero.1 zero.symm)
        | false => exact Int.natCast_eq_zero.1 zero.symm
      rw [hn, Nat.zero_mul] at units
      rw [units?, ← units]
      cases negative <;> rfl

/-- Finite doubles with the same units are equal unless they are zeros. -/
theorem eq_or_zero_of_units {units : Int} (hx : x.units? = some units)
    (hy : y.units? = some units) : x = y ∨ units = 0 := by
  cases x with
  | nan => cases hx
  | infinity => cases hx
  | finite s r =>
    cases y with
    | nan => cases hy
    | infinity => cases hy
    | finite t q =>
      have same := Option.some.inj (hx.trans hy.symm)
      cases s with
      | false =>
        cases t with
        | false =>
          left
          have ranks := unitsOfRank_injective (Int.ofNat.inj same)
          rw [Fin.ext ranks]
        | true =>
          -- Of one sign and of the other, so of neither.
          right
          have signed := Option.some.inj hx
          simp only [Bool.false_eq_true, if_true, if_false] at same signed
          omega
      | true =>
        cases t with
        | false =>
          right
          have signed := Option.some.inj hx
          simp only [Bool.false_eq_true, if_true, if_false] at same signed
          omega
        | true =>
          left
          have ranks := unitsOfRank_injective (Int.ofNat.inj (Int.neg_inj.1 same))
          rw [Fin.ext ranks]

/-- **Two doubles are the same number exactly if they are equal without the sign of zero.** -/
theorem sameNumber_iff : x.SameNumber y ↔ plainZero x = plainZero y := by
  constructor
  · rintro (rfl | ⟨units, hx, hy⟩)
    · rfl
    · rcases eq_or_zero_of_units hx hy with rfl | rfl
      · rfl
      · rw [plainZero, plainZero, if_pos (units?_eq_zero_iff.1 hx),
          if_pos (units?_eq_zero_iff.1 hy)]
  · intro same
    rw [plainZero, plainZero] at same
    split at same
    next hx =>
      split at same
      next hy => exact .inr ⟨0, units?_eq_zero_iff.2 hx, units?_eq_zero_iff.2 hy⟩
      next hy => exact absurd (same ▸ toInt?_zero) hy
    next hx =>
      split at same
      next hy => exact absurd (same ▸ toInt?_zero) hx
      next => exact .inl same

theorem SameNumber.symm (h : x.SameNumber y) : y.SameNumber x :=
  sameNumber_iff.2 (sameNumber_iff.1 h).symm

/-- The same number is finite as one double if it is as another. -/
theorem SameNumber.isFinite (h : x.SameNumber y) : x.isFinite = y.isFinite := by
  have finite {x : Double} {units : Int} (h : x.units? = some units) : x.isFinite = true := by
    cases x with
    | nan => cases h
    | infinity => cases h
    | finite => rfl
  rcases h with rfl | ⟨units, hx, hy⟩
  · rfl
  · rw [finite hx, finite hy]

/-- **The plain text of a value is read as the same number.** -/
theorem exists_sameNumber_of_toPlain (x : Double) :
    ∃ y, Numeral.anyDouble? x.toPlain = some y ∧ y.SameNumber x := by
  obtain ⟨y, read, same⟩ := Option.map_eq_some_iff.1 (anyDouble?_toPlain x)
  exact ⟨y, read, sameNumber_iff.2 same⟩

/-- The two zeros have one plain text, which is read as the one that is positive. -/
example : (finite true ⟨0, by decide⟩).toPlain = "0" ∧ Numeral.anyDouble? "0" = some zero := by
  decide +kernel

end Telemetry.Double
