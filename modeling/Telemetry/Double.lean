/-!
# Doubles

A double is not-a-number, an infinity, or a finite value of the binary64 format.  The
finite magnitudes are counted from zero in increasing order: rank 0 is zero, rank 1 is
the least positive magnitude, and there are `2047 · 2⁵²` of them.  The magnitude of a
rank is a whole number of units of `2⁻¹⁰⁷⁴`, so all arithmetic here is exact arithmetic on
natural numbers followed by one rounding (`Double.nearestRank`).

Equality of doubles is identity: the two zeros differ, and there is one not-a-number.
-/

namespace Telemetry

/-- The number of finite magnitudes. -/
def Double.finiteCount : Nat := 2047 * Nat.pow 2 52

/-- A number of the binary64 format, with a single not-a-number. -/
inductive Double
  | nan
  | infinity (negative : Bool)
  | finite (negative : Bool) (rank : Fin Double.finiteCount)
  deriving DecidableEq

namespace Double

/-! ### Magnitudes -/

/-- The number of magnitudes between a power of two and the next one. -/
def binade : Nat := Nat.pow 2 52

/-- The number of units in one. -/
def scale : Nat := Nat.pow 2 1074

/-- The magnitude of a rank, in units of `2⁻¹⁰⁷⁴`. -/
def unitsOfRank (rank : Nat) : Nat :=
  if rank < binade then rank else (binade + rank % binade) * Nat.pow 2 (rank / binade - 1)

/-- The quotient `a / b` rounded to a whole number, a half going to the even neighbour. -/
def divideHalfEven (a b : Nat) : Nat :=
  let q := a / b
  let r := a % b
  if 2 * r < b then q else if b < 2 * r then q + 1 else q + q % 2

/-- The rank nearest to `a / b` units, a half going to the even rank.  A rank has 53
significant bits, so those below them are rounded away. -/
def nearestRank (a b : Nat) : Nat :=
  let shift := (a / b).log2 - 52
  shift * binade + divideHalfEven a (b * Nat.pow 2 shift)

/-- The double of a sign and a rank; a rank past the finite ones is an infinity. -/
def ofRank (negative : Bool) (rank : Nat) : Double :=
  if h : rank < finiteCount then finite negative ⟨rank, h⟩ else infinity negative

/-- Positive zero. -/
def zero : Double := finite false ⟨0, by decide⟩

/-- The double nearest to `± a / b`. -/
def ofRatio (negative : Bool) (a b : Nat) : Double :=
  ofRank negative (nearestRank (a * scale) b)

def ofInt (i : Int) : Double := ofRatio (decide (i < 0)) i.natAbs 1

/-- The double nearest to `± digits · 10 ^ exponent`.  A value of at least `10³¹⁰` is past the
finite range, and one below `10⁻³⁹⁹` is nearest to zero; neither is written out. -/
def ofDecimal (negative : Bool) (digits : Nat) (exponent : Int) : Double :=
  if digits = 0 then ofRank negative 0
  else if 0 ≤ exponent then
    if 310 < exponent then infinity negative
    else ofRatio negative (digits * Nat.pow 10 exponent.toNat) 1
  else if digits.log2 + 400 < exponent.natAbs then ofRank negative 0
  else ofRatio negative digits (Nat.pow 10 exponent.natAbs)

/-! ### Tests and conversions -/

/-- Neither an infinity nor not-a-number. -/
def isFinite : Double → Bool
  | finite _ _ => true
  | _ => false

/-- Greater than zero; not-a-number is not. -/
def isPositive : Double → Bool
  | finite negative rank => !negative && decide (0 < rank.val)
  | infinity negative => !negative
  | nan => false

/-- The signed magnitude in units of `2⁻¹⁰⁷⁴`. -/
def units? : Double → Option Int
  | finite negative rank =>
      some (if negative then -(unitsOfRank rank.val : Int) else unitsOfRank rank.val)
  | _ => none

/-- The value as a whole number, if it is one. -/
def toInt? (x : Double) : Option Int :=
  match x with
  | finite negative rank =>
      let u := unitsOfRank rank.val
      if u % scale = 0 then
        let magnitude : Int := (u / scale : Nat)
        some (if negative then -magnitude else magnitude)
      else none
  | _ => none

def truncate? (x : Double) : Option Int :=
  match x with
  | finite negative rank =>
      let magnitude : Int := (unitsOfRank rank.val / scale : Nat)
      some (if negative then -magnitude else magnitude)
  | _ => none

/-- The sum rounded to the nearest double; opposite infinities have none. -/
def add : Double → Double → Double
  | nan, _ => nan
  | _, nan => nan
  | infinity s, infinity t => if s = t then infinity s else nan
  | infinity s, _ => infinity s
  | _, infinity t => infinity t
  | finite s x, finite t y =>
      let signed (negative : Bool) (rank : Nat) : Int :=
        if negative then -(unitsOfRank rank : Int) else unitsOfRank rank
      let sum := signed s x.val + signed t y.val
      if sum = 0 then ofRank (s && t) 0
      else ofRank (decide (sum < 0)) (nearestRank sum.natAbs 1)

/-- The same magnitude with the sign of `negative` changed. -/
def negate : Double → Double
  | nan => nan
  | infinity s => infinity !s
  | finite s rank => finite (!s) rank

@[simp] theorem isFinite_finite (s : Bool) (rank : Fin finiteCount) :
    (finite s rank).isFinite = true := rfl

end Double
end Telemetry
