import Telemetry.Metric
import Telemetry.Table

/-!
# The registry of an agent

A registry holds the latest value of each gauge, and for each counter the amount that is still to
be delivered.  Every poll puts in a sample and counts itself; a delivered amount is taken off.
-/

namespace Telemetry.Agent

def pollCount : String := "PollCount"

/-- Latest values and pending amounts. -/
structure Registry where
  gauges : Table String Double
  pending : Table String Int

namespace Registry

/-- The registry before the first poll. -/
def empty : Registry := ⟨.empty, .empty⟩

/-- The amount of a counter that is still to be delivered. -/
def due (r : Registry) (name : String) : Int := (r.pending.get? name).getD 0

def add (r : Registry) (name : String) (amount : Int) : Registry :=
  { r with pending := r.pending.put name (r.due name + amount) }

def overlay (gauges : Table String Double) : List (String × Double) → Table String Double
  | [] => gauges
  | (name, value) :: rest => overlay (gauges.put name value) rest

/-- Put in a sample, and count the poll. -/
def poll (r : Registry) (sample : List (String × Double)) : Registry :=
  { r with gauges := overlay r.gauges sample }.add pollCount 1

/-- The gauges by name, and the counters with something to deliver by name. -/
def readings (r : Registry) : List Reading :=
  (r.gauges.sorted.map fun g => Reading.gauge g.1 g.2)
    ++ (r.pending.sorted.filter fun c => c.2 ≠ 0).map fun c => Reading.counter c.1 c.2

def snapshot (r : Registry) : List Metric := r.readings.map Reading.toMetric

/-- Take a delivered record off.  Only amounts are. -/
def acknowledge (r : Registry) (m : Metric) : Registry :=
  match m.delta with
  | none => r
  | some amount => r.add m.id (-amount)

@[simp] theorem due_empty (name : String) : empty.due name = 0 := rfl

theorem due_add (r : Registry) (name other : String) (amount : Int) :
    (r.add name amount).due other =
      if name = other then r.due other + amount else r.due other := by
  simp only [due, add, Table.get?_put]
  split
  next h => subst h; rfl
  · rfl

theorem due_poll (r : Registry) (sample : List (String × Double)) (name : String) :
    (r.poll sample).due name = if pollCount = name then r.due name + 1 else r.due name :=
  due_add _ _ _ _

end Registry
end Telemetry.Agent
