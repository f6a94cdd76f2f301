import Telemetry.Text.Numeral

/-!
# Lenient fields

A record field or a setting may be written in more than one way: a number as a text, a truth
value as a number.  This module says what each kind of field accepts and how it refuses the
rest.  The inputs are `Raw` values, so that records and settings share the rules.
-/

namespace Telemetry

/-- A field before it has been given a type. -/
inductive Raw
  | null
  | bool (value : Bool)
  | int (value : Int)
  | float (value : Double)
  | text (value : String)
  /-- A list, a mapping, or anything else that no field accepts. -/
  | compound

/-- Why an input is refused. -/
inductive Fault
  | invalidJson
  | notAList
  | notARecord
  | missing
  | notText
  | notInt
  | malformedInt
  | oversizedInt
  | fractionalInt
  | notFinite
  | notDouble
  | malformedDouble
  | notBool
  | malformedBool
  | unknownChoice
  | tooSmall
  | notGreater
  deriving DecidableEq

/-- One step towards the place of a fault. -/
inductive Place
  | field (name : String)
  | item (index : Nat)
  deriving DecidableEq

/-- A fault and the way to it from the outside in. -/
structure Issue where
  fault : Fault
  place : List Place
  deriving DecidableEq

/-- The error of a result, if there is one. -/
def Issue.of : Except Issue α → List Issue
  | .ok _ => []
  | .error issue => [issue]

namespace Raw

def toText : Raw → Except Fault String
  | text s => .ok s
  | _ => .error .notText

/-- A double as a whole number, if it is one strictly between `-2⁶³` and `2⁶³`. -/
def intOfDouble (x : Double) : Except Fault Int :=
  if !x.isFinite then .error .notFinite
  else
    match x.toInt? with
    | none => .error .fractionalInt
    | some i => if i.natAbs < Nat.pow 2 63 then .ok i else .error .oversizedInt

/-- A field for a whole number accepts truth values, doubles without a fraction, and numerals. -/
def toInt : Raw → Except Fault Int
  | bool b => .ok (if b then 1 else 0)
  | int i => .ok i
  | float x => intOfDouble x
  | text s =>
      match Numeral.asciiInt s with
      | .ok i => .ok i
      | .error .malformed => .error .malformedInt
      | .error .tooLong => .error .oversizedInt
  | _ => .error .notInt

/-- A field for a double accepts truth values, whole numbers, which it rounds, and numerals. -/
def toDouble : Raw → Except Fault Double
  | bool b => .ok (Double.ofInt (if b then 1 else 0))
  | int i => .ok (Double.ofInt i)
  | float x => .ok x
  | text s =>
      match Numeral.asciiDouble? s with
      | some x => .ok x
      | none => .error .malformedDouble
  | _ => .error .notDouble

/-- The words for truth values, in lower case. -/
def truthWords : List (String × Bool) :=
  [("1", true), ("true", true), ("t", true), ("yes", true), ("y", true), ("on", true),
   ("0", false), ("false", false), ("f", false), ("no", false), ("n", false), ("off", false)]

def boolOfInt (i : Int) : Except Fault Bool :=
  if i = 0 then .ok false else if i = 1 then .ok true else .error .malformedBool

/-- A field for a truth value accepts words in any case, and zero and one. -/
def toBool : Raw → Except Fault Bool
  | bool b => .ok b
  | text s =>
      match truthWords.lookup (Text.lower s) with
      | some b => .ok b
      | none => .error .malformedBool
  | int i => if i.natAbs < Nat.pow 2 63 then boolOfInt i else .error .notBool
  | float x =>
      match intOfDouble x with
      | .ok i => boolOfInt i
      | .error _ => .error .notBool
  | _ => .error .notBool

/-- An optional field is absent if it is null. -/
def optional (read : Raw → Except Fault α) : Raw → Except Fault (Option α)
  | null => .ok none
  | raw => some <$> read raw

end Raw
end Telemetry
