import Telemetry.Double.Decimal
import Telemetry.Text.Blank
import Telemetry.Text.Case
import Telemetry.Text.Digit

/-!
# Numbers written as text

Two families of texts are read as numbers.

* ASCII numerals, in record fields and settings: ASCII digits, white space around them, and
  for whole numbers a fraction of zeros.
* Numerals of any script, in paths, on command lines and in database cells: the decimal
  digits of every script, and no fraction on whole numbers.

Both allow single underscores between digits.  A whole number of more than 4300 digits is
refused.
-/

namespace Telemetry.Numeral

open Text

/-- The most digits that a whole number may have. -/
def maxDigits : Nat := 4300

/-! ### Shared pieces -/

/-- Split off a sign; `true` is negative. -/
def splitSign : List Char → Bool × List Char
  | '-' :: rest => (true, rest)
  | '+' :: rest => (false, rest)
  | cs => (false, cs)

/-- Digits with single underscores between them, less the underscores. -/
def ungroup? : List Char → Option (List Char)
  | [] => none
  | [c] => if c.isDigit then some [c] else none
  | c :: '_' :: rest => if c.isDigit then (c :: ·) <$> ungroup? rest else none
  | c :: d :: rest => if c.isDigit then (c :: ·) <$> ungroup? (d :: rest) else none

def signed (negative : Bool) (n : Nat) : Int := if negative then -(n : Int) else n

def splitDigits (cs : List Char) : List Char × List Char := cs.span Char.isDigit

/-- Read an exponent, which is absent or an `e` with a sign and digits. -/
def exponent? : List Char → Option Int
  | [] => some 0
  | e :: rest =>
      if e = 'e' || e = 'E' then
        let (negative, ds) := splitSign rest
        if !ds.isEmpty && ds.all Char.isDigit then some (signed negative (ofDigits ds)) else none
      else none

/-- Read digits with an optional point and exponent; one digit is needed before the exponent. -/
def magnitude? (cs : List Char) : Option Decimal :=
  let (whole, rest) := splitDigits cs
  let (fraction, rest) :=
    match rest with
    | '.' :: more => splitDigits more
    | _ => ([], rest)
  if whole.isEmpty && fraction.isEmpty then none
  else (exponent? rest).map fun e => ⟨ofDigits (whole ++ fraction), e - fraction.length⟩

/-- Read a decimal number, `inf`, `infinity` or `nan`, the words in any case. -/
def plainDouble? (cs : List Char) : Option Double :=
  let (negative, rest) := splitSign cs
  match magnitude? rest with
  | some d => some (d.toDouble negative)
  | none =>
      let word := String.ofList (rest.map Char.toLower)
      if word = "inf" || word = "infinity" then some (.infinity negative)
      else if word = "nan" then some .nan
      else none

/-! ### ASCII numerals -/

/-- Why a text is not a whole number. -/
inductive IntFault
  | malformed
  | tooLong
  deriving DecidableEq

/-- The whole part of a numeral: what stands before a point that only zeros follow. -/
def wholePart? (cs : List Char) : Option (List Char) :=
  let (whole, rest) := cs.span (· ≠ '.')
  match rest with
  | [] => some whole
  | _ :: zeros => if !zeros.isEmpty && zeros.all (· = '0') then some whole else none

def asciiInt (s : String) : Except IntFault Int :=
  let (negative, rest) := splitSign (trim isWhiteSpace s.toList)
  match wholePart? rest >>= ungroup? with
  | none => .error .malformed
  | some ds =>
      if maxDigits < (ds.dropWhile (· = '0')).length then .error .tooLong
      else .ok (signed negative (ofDigits ds))

/-- Remove underscores that are neither first, nor last, nor doubled. -/
def dropUnderscores? (cs : List Char) : Option (List Char) :=
  let doubled := (cs.zip cs.tail).any fun (a, b) => a = '_' && b = '_'
  if !cs.contains '_' || cs.head? = some '_' || cs.getLast? = some '_' || doubled then none
  else some (cs.filter (· ≠ '_'))

/-- Read a double in ASCII digits.  A text with underscores is not trimmed. -/
def asciiDouble? (s : String) : Option Double :=
  match plainDouble? (trim isWhiteSpace s.toList) with
  | some x => some x
  | none => dropUnderscores? s.toList >>= plainDouble?

/-! ### Numerals of any script -/

/-- Replace the decimal digits of every script by ASCII ones. -/
def toAsciiDigits (cs : List Char) : List Char :=
  cs.map fun c =>
    match decimalValue? c with
    | some n => Nat.digitChar n
    | none => c

/-- Read a whole number in the digits of any script. -/
def anyInt? (s : String) : Option Int :=
  let (negative, rest) := splitSign (toAsciiDigits (trim isWhiteSpace s.toList))
  match ungroup? rest with
  | none => none
  | some ds => if maxDigits < ds.length then none else some (signed negative (ofDigits ds))

/-- Remove underscores if each of them stands between two digits. -/
def joinGroups? (previous : Option Char) : List Char → Option (List Char)
  | [] => some []
  | '_' :: rest =>
      match previous, rest with
      | some p, d :: _ => if p.isDigit && d.isDigit then joinGroups? (some '_') rest else none
      | _, _ => none
  | c :: rest => (c :: ·) <$> joinGroups? (some c) rest

def anyDouble? (s : String) : Option Double :=
  joinGroups? none (toAsciiDigits (trim isWhiteSpace s.toList)) >>= plainDouble?

end Telemetry.Numeral
