import Telemetry.Metric
import Telemetry.Table

/-!
# The contents of a store

A store keeps the last value of each gauge and the sum of each counter.  Its snapshot lists
the gauges by name and then the counters by name.
-/

namespace Telemetry

structure Contents where
  gauges : Table String Double
  counters : Table String Int
  deriving DecidableEq

namespace Contents

def empty : Contents := ⟨.empty, .empty⟩

instance : EmptyCollection Contents := ⟨empty⟩

/-- The sum of a counter, which is zero before its first update. -/
def total (c : Contents) (name : String) : Int := (c.counters.get? name).getD 0

def setGauge (c : Contents) (name : String) (value : Double) : Contents :=
  { c with gauges := c.gauges.put name value }

def setCounter (c : Contents) (name : String) (value : Int) : Contents :=
  { c with counters := c.counters.put name value }

/-- The gauges by name and then the counters by name. -/
def snapshot (c : Contents) : List Reading :=
  (c.gauges.sorted.map fun e => .gauge e.1 e.2)
    ++ c.counters.sorted.map fun e => .counter e.1 e.2

def records (c : Contents) : List Metric := c.snapshot.map Reading.toMetric

/-- Take over a record; one of unknown type or without its field is passed over. -/
def accept (c : Contents) (m : Metric) : Contents :=
  match m.kind?, m.value, m.delta with
  | some .gauge, some value, _ => c.setGauge m.id value
  | some .counter, _, some amount => c.setCounter m.id amount
  | _, _, _ => c

def restore (c : Contents) (records : List Metric) : Contents := records.foldl accept c

@[simp] theorem accept_gauge (c : Contents) (name : String) (value : Double) :
    c.accept (Reading.gauge name value).toMetric = c.setGauge name value := rfl

@[simp] theorem accept_counter (c : Contents) (name : String) (amount : Int) :
    c.accept (Reading.counter name amount).toMetric = c.setCounter name amount := rfl

end Contents
end Telemetry
