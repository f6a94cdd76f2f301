import Telemetry.Double.Decimal
import Telemetry.Metric
import Telemetry.Text.Digit

/-!
# Readings as plain text

The plain-text routes and the overview show a reading without its name.  A counter is its
amount.  A gauge that is a whole number below `10²¹` in magnitude is written without a
fraction, and any other gauge in the standard form of doubles.
-/

namespace Telemetry

def Double.toPlain (x : Double) : String :=
  match x.toInt? with
  | some i => if i.natAbs < Nat.pow 10 21 then Text.ofInt i else x.toText
  | none => x.toText

def Reading.toPlain : Reading → String
  | gauge _ value => value.toPlain
  | counter _ amount => Text.ofInt amount

/-- The plain text of a record, in which a change comes before a value. -/
def Metric.toPlain? (m : Metric) : Option String :=
  match m.delta, m.value with
  | some n, _ => some (Text.ofInt n)
  | none, some x => some x.toPlain
  | none, none => none

end Telemetry
