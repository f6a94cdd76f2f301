import Telemetry.Metric.Plain
import Telemetry.Proofs.Database
import Telemetry.Proofs.Text.Numeral

/-!
# Plain texts read back

The plain text of a value is read as the same number, in whichever of its two forms it is
(`anyDouble?_toPlain`).  So two values have one plain text exactly if they are the same number
(`toPlain_eq_iff`): only the sign of zero is lost.
-/

namespace Telemetry

open Cell.inRealColumn (plainZero)

namespace Double

/-! ### Whole numbers -/

theorem toInt?_zero : zero.toInt? = some 0 := by decide +kernel

theorem exists_of_toInt? {negative : Bool} {rank : Fin finiteCount} {i : Int}
    (whole : (finite negative rank).toInt? = some i) :
    ∃ n : Nat, n * scale = unitsOfRank rank.val ∧ i = if negative then -(n : Int) else n := by
  rw [toInt?] at whole
  dsimp only at whole
  split at whole
  next divides =>
    exact ⟨_, Nat.div_mul_cancel (Nat.dvd_of_mod_eq_zero divides), (Option.some.inj whole).symm⟩
  next => cases whole

/-- A double that is a whole number is read from its digits, the sign of zero aside. -/
theorem plainZero_ofDecimal {x : Double} {i : Int} (whole : x.toInt? = some i) :
    plainZero (ofDecimal (decide (i < 0)) i.natAbs 0) = plainZero x := by
  by_cases isZero : i = 0
  · subst isZero
    have digits : ofDecimal (decide ((0 : Int) < 0)) (0 : Int).natAbs 0 = zero := by
      rw [ofDecimal, if_pos Int.natAbs_zero]
      rfl
    rw [digits, plainZero, plainZero, if_pos toInt?_zero, if_pos whole]
  · cases x with
    | nan => cases whole
    | infinity => cases whole
    | finite negative rank =>
      obtain ⟨n, units, rfl⟩ := exists_of_toInt? whole
      have magnitude : (if negative then -(n : Int) else n).natAbs = n := by
        cases negative <;> simp
      have positive : n ≠ 0 := by
        rintro rfl
        cases negative <;> exact isZero rfl
      have sign : decide ((if negative then -(n : Int) else n) < 0) = negative := by
        cases negative with
        | true => simpa using Nat.pos_of_ne_zero positive
        | false => simp
      have one : n * Nat.pow 10 (0 : Int).toNat = n := Nat.mul_one n
      rw [magnitude, sign, ofDecimal, if_neg positive, if_pos (Int.le_refl 0), if_neg (by decide),
        ofRatio, one, units, nearestRank_unitsOfRank, ofRank, dif_pos rank.isLt]

/-- The digits of a whole number are read as the nearest double. -/
theorem anyDouble?_ofInt (i : Int) :
    Numeral.anyDouble? (Text.ofInt i) = some (ofDecimal (decide (i < 0)) i.natAbs 0) := by
  have numeric := Numeral.numeric_ofInt i
  have joined : '_' ∉ (Text.ofInt i).toList :=
    fun h => (Numeral.plain_of_numeric (numeric '_' h)).2.2 rfl
  have digits : ∀ c ∈ Nat.toDigits 10 i.natAbs, c.isDigit = true :=
    fun _ hc => Text.isDigit_toDigits hc
  have split : Numeral.splitDigits (Nat.toDigits 10 i.natAbs) = (Nat.toDigits 10 i.natAbs, []) := by
    have split := Text.splitDigits_append digits (show ∀ c, [].head? = some c → _ from nofun)
    rwa [List.append_nil] at split
  have magnitude : Numeral.magnitude? (Nat.toDigits 10 i.natAbs) = some ⟨i.natAbs, 0⟩ := by
    have read := Numeral.magnitude?_of_parts split Nat.toDigits_ne_nil
      (.inr ⟨nofun, rfl, rfl⟩) (show Numeral.exponent? [] = some 0 from rfl)
    rw [List.append_nil, Text.ofDigits_toDigits] at read
    exact read
  rw [Numeral.anyDouble?, Numeral.toAsciiDigits_trim numeric, Numeral.joinGroups?_eq_self joined]
  show Numeral.plainDouble? (Text.ofInt i).toList = _
  rw [Json.toList_ofInt, Numeral.plainDouble?,
    Numeral.splitSign_append _ (Json.toDigits_first i.natAbs)]
  dsimp only
  rw [magnitude]
  rfl

/-! ### Both forms -/

theorem anyDouble?_toText (x : Double) : Numeral.anyDouble? x.toText = some x := by
  cases x with
  | nan => decide
  | infinity negative => cases negative <;> decide
  | finite negative rank => exact Numeral.anyDouble?_toText (isFinite_finite negative rank)

/-- **The plain text of a value is read as the same number.** -/
theorem anyDouble?_toPlain (x : Double) :
    (Numeral.anyDouble? x.toPlain).map plainZero = some (plainZero x) := by
  rw [toPlain]
  split
  next i whole =>
    split
    next => rw [anyDouble?_ofInt, Option.map_some, plainZero_ofDecimal whole]
    next => rw [anyDouble?_toText, Option.map_some]
  next => rw [anyDouble?_toText, Option.map_some]

/-- The sign of zero has no place in a plain text. -/
theorem toPlain_plainZero (x : Double) : (plainZero x).toPlain = x.toPlain := by
  unfold plainZero
  split
  next isZero =>
    rw [toPlain, toPlain, isZero, toInt?_zero]
    rfl
  next => rfl

/-- **Two values have one plain text exactly if they are the same number.** -/
theorem toPlain_eq_iff {x y : Double} : x.toPlain = y.toPlain ↔ plainZero x = plainZero y := by
  constructor
  · intro same
    have read := anyDouble?_toPlain x
    rw [same, anyDouble?_toPlain y] at read
    exact (Option.some.inj read).symm
  · intro same
    rw [← toPlain_plainZero x, same, toPlain_plainZero]

end Double

/-! ### Amounts -/

/-- An amount is known by its digits and its sign. -/
theorem Text.ofInt_inj {i j : Int} : Text.ofInt i = Text.ofInt j ↔ i = j := by
  have read (i : Int) : Numeral.signed (Numeral.splitSign (ofInt i).toList).1
      (ofDigits (Numeral.splitSign (ofInt i).toList).2) = i := by
    rw [Json.toList_ofInt, Numeral.splitSign_append _ (Json.toDigits_first i.natAbs),
      ofDigits_toDigits, Json.signed_natAbs]
  refine ⟨fun same => ?_, congrArg ofInt⟩
  rw [← read i, same, read j]

/-- The plain text of a reading has its number and nothing else. -/
theorem Reading.plain_eq_iff {r s : Reading} :
    r.plain = s.plain ↔ r.name = s.name ∧ r.kind = s.kind ∧ r.toPlain = s.toPlain := by
  cases r with
  | gauge name x =>
    cases s with
    | gauge name' y => simp [plain, Reading.name, kind, toPlain, Double.toPlain_eq_iff]
    | counter => simp [plain, kind]
  | counter name n =>
    cases s with
    | gauge => simp [plain, kind]
    | counter name' k => simp [plain, Reading.name, kind, toPlain, Text.ofInt_inj]

/-! ### The characters of a plain text -/

/-- A plain text has no blanks. -/
theorem Reading.noBlank_toPlain (r : Reading) : ' ' ∉ r.toPlain.toList := by
  have numeric {text : String} (h : ∀ c ∈ text.toList, Numeral.IsNumeric c) : ' ' ∉ text.toList :=
    fun blank => absurd (Numeral.plain_of_numeric (h ' ' blank)).1 (by decide)
  have standard (x : Double) : ' ' ∉ x.toText.toList := by
    cases x with
    | nan => decide
    | infinity negative => cases negative <;> decide
    | finite negative rank => exact numeric (Numeral.numeric_toText (Double.isFinite_finite _ _))
  cases r with
  | counter name amount => exact numeric (Numeral.numeric_ofInt amount)
  | gauge name x =>
    rw [toPlain, Double.toPlain]
    split
    next i _ =>
      split
      next => exact numeric (Numeral.numeric_ofInt i)
      next => exact standard x
    next => exact standard x

end Telemetry
