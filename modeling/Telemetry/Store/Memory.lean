import Telemetry.Store

/-!
# The memory store

The memory store keeps its contents and nothing else.
-/

namespace Telemetry.Store.Memory

/-- A memory store takes no steps. -/
inductive Step

def Step.Answer (s : Step) : Type := nomatch s

/-- Change the contents inside the lock, unless the change is refused. -/
def change {S : Type} {A : S → Type} (f : Contents → Except Error Contents) :
    Doing A (Outcome Error Unit) :=
  locked .write do
    let c ← contents
    match f c with
    | .ok c => do
        setContents c
        pure (.value ())
    | .error e => pure (.failure e)

def serve : (call : Call) → Doing Step.Answer call.Answer
  | .updateGauge name value => change fun c => .ok (c.setGauge name value)
  | .updateCounter name delta =>
      change fun c => c.setCounter name <$> checked name (c.total name + delta)
  | .setCounter name value => change fun c => c.setCounter name <$> checked name value
  | .getGauge name => lookUp fun c => c.gauges.get? name
  | .getCounter name => lookUp fun c => c.counters.get? name
  | .getAll => lookUp Contents.snapshot
  | .save => pure (.value ())
  | .ping => pure (.failure (.storage (.noDatabase .memory)))

end Telemetry.Store.Memory
