import Telemetry.Double

/-!
# Decimal texts of doubles

Writing a double has two halves.  `Double.shortest` chooses the digits: the fewest that
read back as the same double, and of those the nearest to it.  A `Layout` says how digits
are set: which exponents are written with a plain decimal point, and how the others look.

Every choice of digits is checked by reading it back, and where no short choice passes, the
exact decimal expansion is used; so the digits always denote the double they were chosen for.
-/

namespace Telemetry

/-- The decimal number `digits · 10 ^ exponent`. -/
structure Decimal where
  digits : Nat
  exponent : Int
  deriving DecidableEq

namespace Decimal

/-- The double nearest to a decimal number with a sign. -/
def toDouble (negative : Bool) (d : Decimal) : Double :=
  Double.ofDecimal negative d.digits d.exponent

/-- Remove zeros at the end of the digits, at most `fuel` of them. -/
def trim (fuel : Nat) (d : Decimal) : Decimal :=
  match fuel with
  | 0 => d
  | fuel + 1 =>
      if d.digits ≠ 0 ∧ d.digits % 10 = 0 then trim fuel ⟨d.digits / 10, d.exponent + 1⟩ else d

end Decimal

namespace Double

/-! ### Choosing digits -/

/-- The exponent `e` with `10 ^ e ≤ units · 2⁻¹⁰⁷⁴ < 10 ^ (e + 1)`, for a positive number of
units.  The binary length gives it up to one, and a comparison settles which. -/
def decimalExponent (units : Nat) : Int :=
  let guess : Int := ((units.log2 : Int) - 1074) * 30103 / 100000
  let reaches (e : Int) : Bool :=
    if 0 ≤ e then decide (scale * Nat.pow 10 e.toNat ≤ units)
    else decide (scale ≤ units * Nat.pow 10 e.natAbs)
  if reaches (guess + 1) then guess + 1 else if reaches guess then guess else guess - 1

/-- The decimal number of `count` digits nearest to a positive magnitude among the two that
enclose it, if one of them reads back as `rank`; a tie goes to the even last digit. -/
def digitsOfLength? (rank units : Nat) (top : Int) (count : Nat) : Option Decimal :=
  let exponent := top - (count - 1 : Nat)
  let (num, den) :=
    if 0 ≤ exponent then (units, scale * Nat.pow 10 exponent.toNat)
    else (units * Nat.pow 10 exponent.natAbs, scale)
  let below : Decimal := ⟨num / den, exponent⟩
  let above : Decimal := ⟨num / den + 1, exponent⟩
  let reads (d : Decimal) : Bool := decide (d.toDouble false = ofRank false rank)
  let nearBelow : Bool :=
    decide (2 * (num % den) < den) ||
      (decide (2 * (num % den) = den) && decide (below.digits % 2 = 0))
  match reads below, reads above with
  | true, true => some (if nearBelow then below else above)
  | true, false => some below
  | false, true => some above
  | false, false => none

/-- The fewest digits that read back as the magnitude of a rank. -/
def shortest (rank : Nat) : Decimal :=
  if rank = 0 then ⟨0, 0⟩
  else
    let units := unitsOfRank rank
    let top := decimalExponent units
    match (List.range 17).findSome? fun i => digitsOfLength? rank units top (i + 1) with
    | some d => d.trim 17
    | none => ⟨units * Nat.pow 5 1074, -1074⟩

/-! ### Setting digits -/

/-- How the digits of a double are set. -/
structure Layout where
  /-- The least decimal exponent written with a plain point. -/
  lowest : Int
  /-- The greatest decimal exponent written with a plain point. -/
  highest : Int
  /-- The least number of digits of an exponent. -/
  exponentWidth : Nat
  /-- What is written for not-a-number. -/
  nan : String
  /-- What is written for positive infinity. -/
  infinity : String

def padLeft (width : Nat) (cs : List Char) : List Char :=
  List.replicate (width - cs.length) '0' ++ cs

/-- The text of a nonnegative decimal number.  A whole number set with a plain point ends in
`.0`; one digit set with an exponent has no point. -/
def Layout.setDigits (layout : Layout) (d : Decimal) : List Char :=
  let ds := Nat.toDigits 10 d.digits
  let top : Int := d.exponent + (ds.length - 1 : Nat)
  if layout.lowest ≤ top ∧ top ≤ layout.highest then
    if top < 0 then
      ['0', '.'] ++ List.replicate (top.natAbs - 1) '0' ++ ds
    else if d.exponent < 0 then
      ds.take (top.toNat + 1) ++ ['.'] ++ ds.drop (top.toNat + 1)
    else
      ds ++ List.replicate d.exponent.toNat '0' ++ ['.', '0']
  else
    let mantissa :=
      match ds with
      | [c] => [c]
      | c :: rest => c :: '.' :: rest
      | [] => []
    mantissa ++ ['e', if top < 0 then '-' else '+']
      ++ padLeft layout.exponentWidth (Nat.toDigits 10 top.natAbs)

def Layout.write (layout : Layout) : Double → String
  | .nan => layout.nan
  | .infinity negative => (if negative then "-" else "") ++ layout.infinity
  | .finite negative rank =>
      (if negative then "-" else "") ++ String.ofList (layout.setDigits (shortest rank.val))

/-- Exponents from -4 to 15 have a plain point; others have at least two digits. -/
def Layout.standard : Layout :=
  { lowest := -4, highest := 15, exponentWidth := 2, nan := "nan", infinity := "inf" }

def toText (x : Double) : String := Layout.standard.write x

end Double
end Telemetry
