import Telemetry.Json.Reader
import Telemetry.Json.Writer
import Telemetry.Proofs.Double.Shortest
import Telemetry.Proofs.Text.Digit

/-!
# Numbers read back

A number has a whole part, a fraction and an exponent, and each of them is read up to the next
one.  The four ways of setting the digits of a double differ in where the point stands, and all of
them read as the digits and the exponent that were set (`readMagnitude_setDigits`); so every finite
double is read back (`readNumber_double`), and every whole number that is not too long
(`readNumber_int`).
-/

namespace Telemetry.Json

open Text

/-! ### Pieces of a number -/

/-- What may follow a number: nothing that would make it longer. -/
def EndsNumber (rest : List Char) : Prop :=
  ∀ c, rest.head? = some c → c.isDigit = false ∧ c ≠ '.' ∧ c ≠ 'e' ∧ c ≠ 'E'

/-- The digits that may stand before the point. -/
structure IsWhole (ds : List Char) : Prop where
  nonempty : ds ≠ []
  digits : ∀ c ∈ ds, c.isDigit = true
  head : ∀ d more, ds ≠ '0' :: d :: more
  length : ds.length ≤ Numeral.maxDigits

def NoDigit (rest : List Char) : Prop := ∀ c, rest.head? = some c → c.isDigit = false

theorem EndsNumber.noDigit {rest : List Char} (h : EndsNumber rest) : NoDigit rest :=
  fun c hc => (h c hc).1

theorem noDigit_cons {c : Char} (rest : List Char) (h : c.isDigit = false) :
    NoDigit (c :: rest) := by
  intro d hd
  cases hd
  exact h

theorem readWhole_append {ds rest : List Char} (whole : IsWhole ds) (ends : NoDigit rest) :
    readWhole (ds ++ rest) = some (ds, rest) := by
  rw [readWhole, splitDigits_append whole.digits ends]
  dsimp only
  split
  next => exact absurd rfl whole.nonempty
  next d more => exact absurd rfl (whole.head d more)
  next => rw [if_neg (Nat.not_lt.2 whole.length)]

theorem readFraction_point {ds rest : List Char} (nonempty : ds ≠ [])
    (digits : ∀ c ∈ ds, c.isDigit = true) (ends : NoDigit rest) :
    readFraction ('.' :: (ds ++ rest)) = some (some ds, rest) := by
  rw [readFraction, splitDigits_append digits ends]
  cases ds with
  | nil => exact absurd rfl nonempty
  | cons => rfl

theorem readFraction_none {rest : List Char} (h : rest.head? ≠ some '.') :
    readFraction rest = some (none, rest) := by
  unfold readFraction
  split
  next => exact absurd rfl h
  next => rfl

theorem readExponent_none {rest : List Char} (ends : EndsNumber rest) :
    readExponent rest = some (none, rest) := by
  cases rest with
  | nil => rfl
  | cons c rest =>
    obtain ⟨-, -, lower, upper⟩ := ends c rfl
    simp [readExponent, lower, upper]

theorem readExponent_sign {negative : Bool} {ds rest : List Char} (nonempty : ds ≠ [])
    (digits : ∀ c ∈ ds, c.isDigit = true) (ends : NoDigit rest) :
    readExponent ('e' :: (if negative then '-' else '+') :: (ds ++ rest))
      = some (some (Numeral.signed negative (ofDigits ds)), rest) := by
  have sign : Numeral.splitSign ((if negative then '-' else '+') :: (ds ++ rest))
      = (negative, ds ++ rest) := by
    cases negative <;> rfl
  have split := splitDigits_append digits ends
  cases ds with
  | nil => exact absurd rfl nonempty
  | cons d ds =>
    simp only [readExponent, sign, split]
    rfl

/-! ### Whole numbers -/

theorem readMagnitude_whole (negative : Bool) {ds rest : List Char} (whole : IsWhole ds)
    (ends : EndsNumber rest) :
    readMagnitude negative (ds ++ rest)
      = some (int (Numeral.signed negative (ofDigits ds)), rest) := by
  have point : rest.head? ≠ some '.' := fun h => (ends '.' h).2.1 rfl
  simp only [readMagnitude, readWhole_append whole ends.noDigit, readFraction_none point,
    readExponent_none ends, Option.bind_eq_bind, Option.bind_some, Option.pure_def]

theorem isWhole_toDigits {n : Nat} (h : (Nat.toDigits 10 n).length ≤ Numeral.maxDigits) :
    IsWhole (Nat.toDigits 10 n) where
  nonempty := Nat.toDigits_ne_nil
  digits := fun _ hc => isDigit_toDigits hc
  head := by
    intro d more hdigits
    by_cases hn : n = 0
    · rw [hn, Nat.toDigits_zero] at hdigits
      cases hdigits
    · exact toDigits_head hn hdigits
  length := h

/-! ### Doubles -/

theorem readMagnitude_point (negative : Bool) {whole fraction rest : List Char}
    (hwhole : IsWhole whole) (nonempty : fraction ≠ [])
    (digits : ∀ c ∈ fraction, c.isDigit = true) (ends : EndsNumber rest) :
    readMagnitude negative (whole ++ '.' :: (fraction ++ rest))
      = some (float (Double.ofDecimal negative (ofDigits (whole ++ fraction))
          (-(fraction.length : Int))), rest) := by
  have point : NoDigit ('.' :: (fraction ++ rest)) := noDigit_cons _ (by decide)
  simp only [readMagnitude, readWhole_append hwhole point,
    readFraction_point nonempty digits ends.noDigit, readExponent_none ends, Option.bind_eq_bind,
    Option.bind_some, Option.pure_def, Option.getD_some, Option.getD_none, Int.zero_sub]

theorem isWhole_singleton {c : Char} (h : c.isDigit = true) : IsWhole [c] where
  nonempty := List.cons_ne_nil c []
  digits := by
    intro d hd
    rw [List.mem_singleton.1 hd]
    exact h
  head := by
    intro d more h
    cases h
  length := (by decide : 1 ≤ Numeral.maxDigits)

theorem readMagnitude_digit_exponent (negative below : Bool) {c : Char} {ds rest : List Char}
    (first : c.isDigit = true) (nonempty : ds ≠ []) (digits : ∀ c ∈ ds, c.isDigit = true)
    (ends : EndsNumber rest) :
    readMagnitude negative
        ([c] ++ 'e' :: (if below then '-' else '+') :: (ds ++ rest))
      = some (float (Double.ofDecimal negative (ofDigits [c])
          (Numeral.signed below (ofDigits ds))), rest) := by
  have letter : NoDigit ('e' :: (if below then '-' else '+') :: (ds ++ rest)) :=
    noDigit_cons _ (by decide)
  have point : ('e' :: (if below then '-' else '+') :: (ds ++ rest)).head? ≠ some '.' := by
    rw [List.head?_cons]
    decide
  simp only [readMagnitude, readWhole_append (isWhole_singleton first) letter,
    readFraction_none point, readExponent_sign nonempty digits ends.noDigit, Option.bind_eq_bind,
    Option.bind_some, Option.pure_def, Option.getD_some, Option.getD_none, List.append_nil,
    List.length_nil, Int.natCast_zero, Int.sub_zero]

theorem readMagnitude_point_exponent (negative below : Bool) {c : Char}
    {fraction ds rest : List Char} (first : c.isDigit = true) (nonempty : fraction ≠ [])
    (digits : ∀ c ∈ fraction, c.isDigit = true) (nonempty' : ds ≠ [])
    (digits' : ∀ c ∈ ds, c.isDigit = true) (ends : EndsNumber rest) :
    readMagnitude negative
        ([c] ++ '.' :: (fraction ++ 'e' :: (if below then '-' else '+') :: (ds ++ rest)))
      = some (float (Double.ofDecimal negative (ofDigits (c :: fraction))
          (Numeral.signed below (ofDigits ds) - fraction.length)), rest) := by
  have letter : NoDigit ('e' :: (if below then '-' else '+') :: (ds ++ rest)) :=
    noDigit_cons _ (by decide)
  have point : NoDigit
      ('.' :: (fraction ++ 'e' :: (if below then '-' else '+') :: (ds ++ rest))) :=
    noDigit_cons _ (by decide)
  simp only [readMagnitude, readWhole_append (isWhole_singleton first) point,
    readFraction_point nonempty digits letter, readExponent_sign nonempty' digits' ends.noDigit,
    Option.bind_eq_bind, Option.bind_some, Option.pure_def, Option.getD_some]
  rfl

/-! ### The four ways of setting digits -/

/-- A layout whose plain numbers include those from one to ten and are not too long. -/
structure IsReadable (layout : Double.Layout) : Prop where
  lowest : layout.lowest ≤ 0
  highest : 0 ≤ layout.highest
  length : layout.highest < Numeral.maxDigits

/-- Digits behind a zero and a point. -/
theorem readMagnitude_below (negative : Bool) (zeros : Nat) {ds rest : List Char}
    (nonempty : ds ≠ []) (digits : ∀ c ∈ ds, c.isDigit = true) (ends : EndsNumber rest) :
    readMagnitude negative (['0', '.'] ++ List.replicate zeros '0' ++ ds ++ rest)
      = some (float (Double.ofDecimal negative (ofDigits ds)
          (-((zeros + ds.length : Nat) : Int))), rest) := by
  have fraction : ∀ c ∈ List.replicate zeros '0' ++ ds, c.isDigit = true := by
    intro c hc
    rcases List.mem_append.1 hc with hc | hc
    · rw [(List.mem_replicate.1 hc).2]
      decide
    · exact digits c hc
  have value : ofDigits (['0'] ++ (List.replicate zeros '0' ++ ds)) = ofDigits ds := by
    rw [← List.append_assoc]
    exact ofDigits_zeros_append (zeros + 1) ds
  have read := readMagnitude_point negative (isWhole_singleton (c := '0') (by decide))
    (List.append_ne_nil_of_right_ne_nil _ nonempty) fraction ends
  rw [value, List.length_append, List.length_replicate] at read
  simpa only [List.cons_append, List.nil_append, List.append_assoc] using read

/-- Digits with a point among them. -/
theorem readMagnitude_between (negative : Bool) {n k : Nat} {rest : List Char} (hn : n ≠ 0)
    (short : k < Numeral.maxDigits) (inside : k + 1 < (Nat.toDigits 10 n).length)
    (ends : EndsNumber rest) :
    readMagnitude negative ((Nat.toDigits 10 n).take (k + 1) ++ ['.']
        ++ (Nat.toDigits 10 n).drop (k + 1) ++ rest)
      = some (float (Double.ofDecimal negative n
          (-(((Nat.toDigits 10 n).length - (k + 1) : Nat) : Int))), rest) := by
  have whole : IsWhole ((Nat.toDigits 10 n).take (k + 1)) :=
    { nonempty := by
        intro h
        have := congrArg List.length h
        rw [List.length_take, List.length_nil] at this
        omega
      digits := fun c hc => isDigit_toDigits (List.mem_of_mem_take hc)
      head := by
        intro d more h
        have all := List.take_append_drop (k + 1) (Nat.toDigits 10 n)
        rw [h] at all
        exact toDigits_head hn all.symm
      length := by
        rw [List.length_take]
        omega }
  have nonempty : (Nat.toDigits 10 n).drop (k + 1) ≠ [] := by
    intro h
    have := congrArg List.length h
    rw [List.length_drop, List.length_nil] at this
    omega
  have read := readMagnitude_point negative whole nonempty
    (fun c hc => isDigit_toDigits (List.mem_of_mem_drop hc)) ends
  rw [List.take_append_drop, ofDigits_toDigits, List.length_drop] at read
  simpa only [List.cons_append, List.nil_append, List.append_assoc] using read

/-- Digits with zeros behind them and a fraction of zero. -/
theorem readMagnitude_above (negative : Bool) {n zeros : Nat} {rest : List Char}
    (hzeros : n = 0 → zeros = 0)
    (short : (Nat.toDigits 10 n).length + zeros ≤ Numeral.maxDigits) (ends : EndsNumber rest) :
    readMagnitude negative
        (Nat.toDigits 10 n ++ List.replicate zeros '0' ++ ['.', '0'] ++ rest)
      = some (float (Double.ofDecimal negative n zeros), rest) := by
  have whole : IsWhole (Nat.toDigits 10 n ++ List.replicate zeros '0') :=
    { nonempty := List.append_ne_nil_of_left_ne_nil Nat.toDigits_ne_nil _
      digits := by
        intro c hc
        rcases List.mem_append.1 hc with hc | hc
        · exact isDigit_toDigits hc
        · rw [(List.mem_replicate.1 hc).2]
          decide
      head := by
        intro d more h
        by_cases hn : n = 0
        · rw [hzeros hn, hn, Nat.toDigits_zero] at h
          cases h
        · cases hdigits : Nat.toDigits 10 n with
          | nil => exact Nat.toDigits_ne_nil hdigits
          | cons c cs =>
            rw [hdigits, List.cons_append, List.cons.injEq] at h
            rw [h.1] at hdigits
            exact toDigits_head hn hdigits
      length := by
        rw [List.length_append, List.length_replicate]
        exact short }
  have read := readMagnitude_point negative whole (List.cons_ne_nil '0' [])
    (isWhole_singleton (c := '0') (by decide)).digits ends
  have value : ofDigits (Nat.toDigits 10 n ++ List.replicate zeros '0' ++ ['0'])
      = n * 10 ^ (zeros + 1) := by
    have zero := ofDigits_append_zeros (zeros + 1) (Nat.toDigits 10 n)
    rw [List.replicate_succ', ← List.append_assoc, ofDigits_toDigits] at zero
    exact zero
  have shift : -((['0'].length : Nat) : Int) + ((zeros + 1 : Nat) : Int) = zeros := by
    rw [List.length_singleton]
    omega
  rw [value, Double.ofDecimal_mul_pow, shift] at read
  simpa only [List.cons_append, List.nil_append, List.append_assoc] using read

theorem isDigit_padLeft {width n : Nat} {c : Char}
    (h : c ∈ Double.padLeft width (Nat.toDigits 10 n)) : c.isDigit = true := by
  rcases List.mem_append.1 h with h | h
  · rw [(List.mem_replicate.1 h).2]
    decide
  · exact isDigit_toDigits h

theorem padLeft_ne_nil (width n : Nat) : Double.padLeft width (Nat.toDigits 10 n) ≠ [] :=
  List.append_ne_nil_of_right_ne_nil _ Nat.toDigits_ne_nil

theorem ofDigits_padLeft (width n : Nat) :
    ofDigits (Double.padLeft width (Nat.toDigits 10 n)) = n := by
  rw [Double.padLeft, ofDigits_zeros_append, ofDigits_toDigits]

theorem signed_natAbs (i : Int) : Numeral.signed (decide (i < 0)) i.natAbs = i := by
  unfold Numeral.signed
  split
  next h =>
    have := of_decide_eq_true h
    omega
  next h =>
    have := mt decide_eq_true h
    omega

/-- Digits with an exponent, a point behind the first if there are others. -/
theorem readMagnitude_far (negative : Bool) (width n : Nat) (top : Int) {rest : List Char}
    (ends : EndsNumber rest) :
    readMagnitude negative ((match Nat.toDigits 10 n with
        | [c] => [c]
        | c :: more => c :: '.' :: more
        | [] => []) ++ ['e', if top < 0 then '-' else '+']
        ++ Double.padLeft width (Nat.toDigits 10 top.natAbs) ++ rest)
      = some (float (Double.ofDecimal negative n
          (top - ((Nat.toDigits 10 n).length - 1 : Nat))), rest) := by
  have sign : (if top < 0 then '-' else '+') = if decide (top < 0) then '-' else '+' := by
    simp only [decide_eq_true_eq]
  have digits : ∀ c ∈ Nat.toDigits 10 n, c.isDigit = true := fun _ hc => isDigit_toDigits hc
  have value := ofDigits_toDigits n
  cases hdigits : Nat.toDigits 10 n with
  | nil => exact absurd hdigits Nat.toDigits_ne_nil
  | cons c more =>
    rw [hdigits] at digits value
    have first := digits c (List.mem_cons_self ..)
    cases more with
    | nil =>
      have read := readMagnitude_digit_exponent negative (decide (top < 0)) first
        (padLeft_ne_nil width top.natAbs) (fun _ hc => isDigit_padLeft hc) ends
      rw [value, ofDigits_padLeft, signed_natAbs, ← sign] at read
      simpa only [List.cons_append, List.nil_append, List.append_assoc, List.length_singleton,
        Nat.sub_self, Int.natCast_zero, Int.sub_zero] using read
    | cons d more =>
      have read := readMagnitude_point_exponent negative (decide (top < 0)) first
        (List.cons_ne_nil d more) (fun e he => digits e (List.mem_cons_of_mem c he))
        (padLeft_ne_nil width top.natAbs) (fun _ hc => isDigit_padLeft hc) ends
      rw [value, ofDigits_padLeft, signed_natAbs, ← sign] at read
      simpa only [List.cons_append, List.nil_append, List.append_assoc, List.length_cons,
        Nat.add_sub_cancel] using read

/-- **Digits are read as they were set**, whichever of the four ways they were set in. -/
theorem readMagnitude_setDigits {layout : Double.Layout} (readable : IsReadable layout)
    (negative : Bool) {d : Decimal} (zero : d.digits = 0 → d.exponent = 0) {rest : List Char}
    (ends : EndsNumber rest) :
    readMagnitude negative (layout.setDigits d ++ rest)
      = some (float (d.toDouble negative), rest) := by
  obtain ⟨lowest, highest, length⟩ := readable
  have positive := Nat.length_toDigits_pos (b := 10) (n := d.digits)
  rw [Double.Layout.setDigits]
  dsimp only
  split
  next plain =>
    split
    next below =>
      have read := readMagnitude_below negative
        ((d.exponent + ((Nat.toDigits 10 d.digits).length - 1 : Nat)).natAbs - 1)
        Nat.toDigits_ne_nil (fun _ hc => isDigit_toDigits (n := d.digits) hc) ends
      rw [ofDigits_toDigits] at read
      rw [read, Decimal.toDouble]
      congr 4
      omega
    next above =>
      split
      next between =>
        -- Zero has one digit and no exponent, so no point falls inside it.
        have nonzero : d.digits ≠ 0 := by
          intro h
          have := zero h
          omega
        rw [readMagnitude_between negative nonzero (by omega) (by omega) ends, Decimal.toDouble]
        congr 4
        omega
      next whole =>
        have exponent : (d.exponent.toNat : Int) = d.exponent := by omega
        rw [readMagnitude_above negative (fun h => by rw [zero h]; rfl) (by omega) ends,
          exponent, Decimal.toDouble]
  -- A number that is too large or too small to be set plainly has an exponent.
  next far =>
    refine (readMagnitude_far negative layout.exponentWidth d.digits _ ends).trans ?_
    rw [Decimal.toDouble, Int.add_sub_cancel]

/-! ### Numbers with their signs -/

/-- What is read does not start with a sign or an infinity if it starts with a digit. -/
theorem readNumber_digit {c : Char} (cs : List Char) (h : c.isDigit = true) :
    readNumber (c :: cs) = readMagnitude false (c :: cs) := by
  unfold readNumber
  split
  next heq =>
    cases heq
    exact absurd h (by decide)
  next heq =>
    cases heq
    exact absurd h (by decide)
  next => rfl

theorem readNumber_minus {c : Char} (cs : List Char) (h : c.isDigit = true) :
    readNumber ('-' :: c :: cs) = readMagnitude true (c :: cs) := by
  unfold readNumber
  split
  next heq =>
    cases heq
    exact absurd h (by decide)
  next heq =>
    cases heq
    rfl
  next other => exact absurd rfl (other (c :: cs))

theorem readNumber_sign {ds rest : List Char} {value : Bool → Json} (negative : Bool)
    (first : ∃ c cs, ds = c :: cs ∧ c.isDigit = true)
    (read : ∀ negative, readMagnitude negative (ds ++ rest) = some (value negative, rest)) :
    readNumber ((if negative then ['-'] else []) ++ ds ++ rest)
      = some (value negative, rest) := by
  obtain ⟨c, cs, rfl, hc⟩ := first
  cases negative with
  | true =>
    rw [← read true]
    exact readNumber_minus (cs ++ rest) hc
  | false =>
    rw [← read false]
    exact readNumber_digit (cs ++ rest) hc

theorem toDigits_first (n : Nat) :
    ∃ c cs, Nat.toDigits 10 n = c :: cs ∧ c.isDigit = true := by
  cases h : Nat.toDigits 10 n with
  | nil => exact absurd h Nat.toDigits_ne_nil
  | cons c cs => exact ⟨c, cs, rfl, isDigit_toDigits (h ▸ List.mem_cons_self ..)⟩

theorem setDigits_first (layout : Double.Layout) (d : Decimal) :
    ∃ c cs, layout.setDigits d = c :: cs ∧ c.isDigit = true := by
  obtain ⟨c, cs, digits, first⟩ := toDigits_first d.digits
  rw [Double.Layout.setDigits, digits]
  dsimp only
  split
  · split
    · exact ⟨'0', _, rfl, by decide⟩
    · split
      · exact ⟨c, _, rfl, first⟩
      · exact ⟨c, _, rfl, first⟩
  · cases cs with
    | nil => exact ⟨c, _, rfl, first⟩
    | cons => exact ⟨c, _, rfl, first⟩

/-- The whole numbers that are written and read back. -/
def IsShort (i : Int) : Prop := (Nat.toDigits 10 i.natAbs).length ≤ Numeral.maxDigits

instance : DecidablePred IsShort := fun _ => inferInstanceAs (Decidable (_ ≤ _))

theorem toList_ofInt (i : Int) :
    (ofInt i).toList = (if decide (i < 0) then ['-'] else []) ++ Nat.toDigits 10 i.natAbs := by
  unfold ofInt toDigits
  by_cases h : i < 0 <;> simp [h]

/-- **A whole number that is not too long is read back.** -/
theorem readNumber_int {i : Int} (short : IsShort i) {rest : List Char} (ends : EndsNumber rest) :
    readNumber ((ofInt i).toList ++ rest) = some (int i, rest) := by
  have read := readNumber_sign (decide (i < 0)) (toDigits_first i.natAbs)
    (fun negative => readMagnitude_whole negative (isWhole_toDigits short) ends)
  rw [ofDigits_toDigits, signed_natAbs] at read
  rw [toList_ofInt]
  exact read

theorem toList_write_finite (layout : Double.Layout) (negative : Bool)
    (rank : Fin Double.finiteCount) :
    (layout.write (.finite negative rank)).toList
      = (if negative then ['-'] else []) ++ layout.setDigits (Double.shortest rank.val) := by
  unfold Double.Layout.write
  cases negative <;> simp

/-- Only zero is written with no digits, and then it has no exponent. -/
theorem exponent_shortest {rank : Fin Double.finiteCount}
    (h : (Double.shortest rank.val).digits = 0) : (Double.shortest rank.val).exponent = 0 := by
  by_cases hrank : rank.val = 0
  · rw [hrank]
    rfl
  · exact absurd h (Double.digits_shortest hrank)

/-- **A finite double is read back.** -/
theorem readNumber_double {layout : Double.Layout} (readable : IsReadable layout) {x : Double}
    (finite : x.isFinite = true) {rest : List Char} (ends : EndsNumber rest) :
    readNumber ((layout.write x).toList ++ rest) = some (float x, rest) := by
  cases x with
  | nan => cases finite
  | infinity negative => cases finite
  | finite negative rank =>
    have read := readNumber_sign negative (setDigits_first layout (Double.shortest rank.val))
      (fun negative => readMagnitude_setDigits readable negative exponent_shortest ends)
    rw [Double.toDouble_shortest] at read
    rw [toList_write_finite]
    exact read

def StartsNumber (text : List Char) : Prop :=
  ∃ c cs, text = c :: cs ∧ (c = '-' ∨ c.isDigit = true)

theorem startsNumber_sign {ds : List Char} (negative : Bool)
    (first : ∃ c cs, ds = c :: cs ∧ c.isDigit = true) :
    StartsNumber ((if negative then ['-'] else []) ++ ds) := by
  obtain ⟨c, cs, rfl, hc⟩ := first
  cases negative with
  | true => exact ⟨'-', c :: cs, rfl, Or.inl rfl⟩
  | false => exact ⟨c, cs, rfl, Or.inr hc⟩

theorem startsNumber_int (i : Int) : StartsNumber (ofInt i).toList := by
  rw [toList_ofInt]
  exact startsNumber_sign _ (toDigits_first i.natAbs)

theorem startsNumber_double (layout : Double.Layout) {x : Double} (finite : x.isFinite = true) :
    StartsNumber (layout.write x).toList := by
  cases x with
  | nan => cases finite
  | infinity negative => cases finite
  | finite negative rank =>
    rw [toList_write_finite]
    exact startsNumber_sign negative (setDigits_first layout _)

end Telemetry.Json
