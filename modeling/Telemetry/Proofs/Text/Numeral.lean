import Telemetry.Proofs.Json.Number

/-!
# Numbers in any script

Numbers are written in characters that are read as they are in every script.  So a whole number is
read as itself, unless it has too many digits (`anyInt?_ofInt`).  What is read as a double in JSON is
read as the same double in every script (`magnitude?_of_readMagnitude`), so every finite double is
read as itself (`anyDouble?_toText`).
-/

namespace Telemetry.Numeral

open Text

/-! ### Whole numbers -/

/-- Digits without underscores stay as they are. -/
theorem ungroup?_digits {ds : List Char} (nonempty : ds ≠ [])
    (digits : ∀ c ∈ ds, c.isDigit = true) : ungroup? ds = some ds := by
  fun_induction ungroup? ds with
  | case1 => exact absurd rfl nonempty
  | case2 c => rfl
  | case3 c other => exact absurd (digits c List.mem_cons_self) other
  | case4 c rest => exact absurd (digits '_' (by simp)) (by decide)
  | case5 c rest other => exact absurd (digits c List.mem_cons_self) other
  | case6 c d rest _ _ ih =>
    rw [ih (List.cons_ne_nil d rest) fun c' h => digits c' (List.mem_cons_of_mem c h)]
    rfl
  | case7 c d rest _ other => exact absurd (digits c List.mem_cons_self) other

/-- A character of a number. -/
def IsNumeric (c : Char) : Prop := c.isDigit = true ∨ c ∈ ['.', 'e', '+', '-']

/-- Such characters are no blanks and join nothing, and stay as they are. -/
theorem plain_of_numeric {c : Char} (h : IsNumeric c) :
    isWhiteSpace c = false ∧ (match decimalValue? c with
      | some n => Nat.digitChar n
      | none => c) = c ∧ c ≠ '_' := by
  rcases h with digit | sign
  · refine forall_digit digit ?_
    decide
  · simp only [List.mem_cons, List.not_mem_nil, or_false] at sign
    rcases sign with rfl | rfl | rfl | rfl <;> decide

/-- Texts of such characters are read as they are. -/
theorem toAsciiDigits_trim {cs : List Char} (h : ∀ c ∈ cs, IsNumeric c) :
    toAsciiDigits (trim isWhiteSpace cs) = cs := by
  rw [trim_eq_self fun c hc => (plain_of_numeric (h c hc)).1]
  exact (List.map_congr_left fun c hc => (plain_of_numeric (h c hc)).2.1).trans (List.map_id' _)

theorem splitSign_append (negative : Bool) {ds : List Char}
    (first : ∃ c cs, ds = c :: cs ∧ c.isDigit = true) :
    splitSign ((if negative then ['-'] else []) ++ ds) = (negative, ds) := by
  obtain ⟨c, cs, rfl, digit⟩ := first
  cases negative with
  | true => rfl
  | false =>
    show splitSign (c :: cs) = _
    unfold splitSign
    split
    next h => cases h; cases digit
    next h => cases h; cases digit
    next => rfl

theorem numeric_ofInt (n : Int) : ∀ c ∈ (ofInt n).toList, IsNumeric c := by
  intro c hc
  rw [Json.toList_ofInt] at hc
  rcases List.mem_append.1 hc with hc | hc
  · split at hc
    · cases List.mem_singleton.1 hc
      exact .inr (by decide)
    · cases hc
  · exact .inl (isDigit_toDigits hc)

/-- **A whole number is read as itself**, unless it is too long. -/
theorem anyInt?_ofInt (n : Int) :
    anyInt? (ofInt n) = if maxDigits < (Nat.toDigits 10 n.natAbs).length then none else some n := by
  have digits : ∀ c ∈ Nat.toDigits 10 n.natAbs, c.isDigit = true := fun _ hc => isDigit_toDigits hc
  have split := splitSign_append (decide (n < 0)) (Json.toDigits_first n.natAbs)
  unfold anyInt?
  rw [toAsciiDigits_trim (numeric_ofInt n), Json.toList_ofInt, split]
  dsimp only
  rw [ungroup?_digits Nat.toDigits_ne_nil digits]
  dsimp only
  rw [ofDigits_toDigits, Json.signed_natAbs]

/-! ### Doubles -/

/-- The digits of a double are set in such characters. -/
theorem numeric_setDigits {layout : Double.Layout} {d : Decimal} {c : Char}
    (h : c ∈ layout.setDigits d) : IsNumeric c := by
  have digit {n : Nat} (h : c ∈ Nat.toDigits 10 n) : IsNumeric c := .inl (Text.isDigit_toDigits h)
  have zero {n : Nat} (h : c ∈ List.replicate n '0') : IsNumeric c := by
    rw [(List.mem_replicate.1 h).2]
    exact .inl (by decide)
  have point (h : c = '.') : IsNumeric c := .inr (by rw [h]; decide)
  rw [Double.Layout.setDigits] at h
  dsimp only at h
  split at h
  · split at h
    · simp only [List.mem_append, List.mem_cons, List.not_mem_nil, or_false] at h
      rcases h with ((rfl | h) | h) | h
      · exact .inl (by decide)
      · exact point h
      · exact zero h
      · exact digit h
    · split at h
      · simp only [List.mem_append, List.mem_singleton] at h
        rcases h with (h | h) | h
        · exact digit (List.mem_of_mem_take h)
        · exact point h
        · exact digit (List.mem_of_mem_drop h)
      · simp only [List.mem_append, List.mem_cons, List.not_mem_nil, or_false] at h
        rcases h with (h | h) | h | rfl
        · exact digit h
        · exact zero h
        · exact point h
        · exact .inl (by decide)
  · simp only [List.mem_append, List.mem_cons, List.not_mem_nil, or_false] at h
    rcases h with (h | rfl | h) | h
    · split at h
      next digits => exact digit (digits ▸ h)
      next first rest _ digits =>
        rcases List.mem_cons.1 h with rfl | h
        · exact digit (digits ▸ List.mem_cons_self)
        · rcases List.mem_cons.1 h with h | h
          · exact point h
          · exact digit (digits ▸ List.mem_cons_of_mem first h)
      next => cases h
    · exact .inr (by decide)
    · rw [h]
      split
      · exact .inr (by decide)
      · exact .inr (by decide)
    · exact .inl (Json.isDigit_padLeft h)

theorem splitDigits_eq_self {cs ds : List Char} (h : splitDigits cs = (ds, [])) :
    ds = cs ∧ ∀ c ∈ cs, c.isDigit = true := by
  rw [splitDigits, List.span_eq_takeWhile_dropWhile, Prod.mk.injEq] at h
  have all := List.takeWhile_append_dropWhile (p := Char.isDigit) (l := cs)
  rw [h.1, h.2, List.append_nil] at all
  refine ⟨all, ?_⟩
  rw [← all, ← h.1]
  exact fun c hc => List.all_eq_true.1 List.all_takeWhile c hc

/-- An exponent that ends a number in JSON. -/
theorem exponent?_of_readExponent {cs : List Char} {e : Option Int}
    (h : Json.readExponent cs = some (e, [])) : exponent? cs = some (e.getD 0) := by
  cases cs with
  | nil =>
    cases h
    rfl
  | cons c rest =>
    rw [Json.readExponent] at h
    rw [exponent?]
    split at h
    next letter =>
      rw [if_pos letter]
      dsimp only at h ⊢
      cases digits : splitDigits (splitSign rest).2 with
      | mk ds tail =>
        rw [digits] at h
        dsimp only at h
        split at h
        next => cases h
        next nonempty =>
          cases h
          obtain ⟨rfl, all⟩ := splitDigits_eq_self digits
          rw [if_pos (by simp only [nonempty, List.all_eq_true.2 all]; rfl)]
          rfl
    next => cases h

/-- A fraction in JSON: there is one behind a point. -/
theorem fraction_of_readFraction {cs rest : List Char} {fraction : Option (List Char)}
    (h : Json.readFraction cs = some (fraction, rest)) :
    (∃ more, cs = '.' :: more ∧ splitDigits more = (fraction.getD [], rest)) ∨
      (∀ more, cs ≠ '.' :: more) ∧ fraction.getD [] = [] ∧ rest = cs := by
  unfold Json.readFraction at h
  split at h
  next more =>
    dsimp only at h
    split at h
    next => cases h
    next =>
      cases h
      exact .inl ⟨more, rfl, rfl⟩
  next other =>
    cases h
    exact .inr ⟨fun more h => other more h, rfl, rfl⟩

/-- Digits, a fraction if there is one, and an exponent if there is one are a number. -/
theorem magnitude?_of_parts {cs whole rest fraction rest' : List Char} {e : Int}
    (digits : splitDigits cs = (whole, rest)) (nonempty : whole ≠ [])
    (point : (∃ more, rest = '.' :: more ∧ splitDigits more = (fraction, rest')) ∨
      (∀ more, rest ≠ '.' :: more) ∧ fraction = [] ∧ rest' = rest)
    (exponent : exponent? rest' = some e) :
    magnitude? cs = some ⟨ofDigits (whole ++ fraction), e - fraction.length⟩ := by
  rw [magnitude?, digits]
  dsimp only
  rcases point with ⟨more, rfl, behind⟩ | ⟨other, rfl, rfl⟩
  · simp only [behind]
    rw [if_neg (by simp [nonempty]), exponent]
    rfl
  · split
    next => exact absurd rfl (other _)
    next => rw [if_neg (by simp [nonempty]), exponent]; rfl

/-- **A double that is read as JSON is read in every script.** -/
theorem magnitude?_of_readMagnitude {negative : Bool} {cs : List Char} {x : Double}
    (h : Json.readMagnitude negative cs = some (.float x, [])) :
    ∃ d, magnitude? cs = some d ∧ d.toDouble negative = x := by
  obtain ⟨⟨whole, rest⟩, hwhole, h⟩ := Option.bind_eq_some_iff.1 h
  obtain ⟨⟨fraction, rest'⟩, hfraction, h⟩ := Option.bind_eq_some_iff.1 h
  obtain ⟨⟨exponent, rest''⟩, hexponent, h⟩ := Option.bind_eq_some_iff.1 h
  dsimp only at hfraction hexponent h
  have digits : splitDigits cs = (whole, rest) ∧ whole ≠ [] := by
    rw [Json.readWhole] at hwhole
    dsimp only at hwhole
    split at hwhole
    next => cases hwhole
    next => cases hwhole
    next nonempty _ =>
      split at hwhole
      next => cases hwhole
      next =>
        cases hwhole
        exact ⟨rfl, fun h => nonempty h⟩
  have ends : rest'' = [] ∧ Double.ofDecimal negative (ofDigits (whole ++ fraction.getD []))
      (exponent.getD 0 - (fraction.getD []).length) = x := by
    split at h
    next => cases h
    next =>
      cases h
      exact ⟨rfl, rfl⟩
  obtain ⟨rfl, rfl⟩ := ends
  exact ⟨_, magnitude?_of_parts digits.1 digits.2 (fraction_of_readFraction hfraction)
    (exponent?_of_readExponent hexponent), rfl⟩

/-- Texts without underscores have no groups to join. -/
theorem joinGroups?_eq_self {previous : Option Char} {cs : List Char} (h : '_' ∉ cs) :
    joinGroups? previous cs = some cs := by
  induction cs generalizing previous with
  | nil => rfl
  | cons c cs ih =>
    obtain ⟨other, rest⟩ := not_or.1 (mt List.mem_cons.2 h)
    unfold joinGroups?
    split
    next heq => cases heq
    next heq => exact absurd (List.cons.inj heq).1.symm other
    next heq =>
      cases heq
      rw [ih rest]
      rfl

theorem numeric_toText {x : Double} (finite : x.isFinite = true) :
    ∀ c ∈ x.toText.toList, IsNumeric c := by
  cases x with
  | nan => cases finite
  | infinity => cases finite
  | finite negative rank =>
    intro c hc
    rw [Double.toText, Json.toList_write_finite] at hc
    rcases List.mem_append.1 hc with hc | hc
    · split at hc
      · cases List.mem_singleton.1 hc
        exact .inr (by decide)
      · cases hc
    · exact numeric_setDigits hc

/-- **A finite double is read as itself.** -/
theorem anyDouble?_toText {x : Double} (finite : x.isFinite = true) :
    anyDouble? x.toText = some x := by
  have numeric := numeric_toText finite
  have joined : '_' ∉ x.toText.toList := fun h => (plain_of_numeric (numeric '_' h)).2.2 rfl
  rw [anyDouble?, toAsciiDigits_trim numeric, joinGroups?_eq_self joined]
  show plainDouble? x.toText.toList = some x
  cases x with
  | nan => cases finite
  | infinity => cases finite
  | finite negative rank =>
    have readable : Json.IsReadable Double.Layout.standard :=
      ⟨by decide, by decide, by decide⟩
    have ends : Json.EndsNumber [] := nofun
    have read := Json.readMagnitude_setDigits readable negative
      (d := Double.shortest rank.val) Json.exponent_shortest ends
    rw [List.append_nil] at read
    obtain ⟨d, magnitude, same⟩ := magnitude?_of_readMagnitude read
    rw [Double.toText, Json.toList_write_finite, plainDouble?,
      splitSign_append negative (Json.setDigits_first _ _)]
    dsimp only
    rw [magnitude]
    dsimp only
    rw [same, Double.toDouble_shortest]

end Telemetry.Numeral
