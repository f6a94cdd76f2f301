import Telemetry.Store

/-!
# Stores that fail

A refusing store does not take updates of some names.  A broken store cannot be listed.  Both
are like the store that they are made from in everything else.
-/

namespace Telemetry.Store

variable {S : Type} {A : S → Type}

/-- A store that does not take updates of some names. -/
def refusing (names : List String) (serve : (call : Call) → Doing A call.Answer) :
    (call : Call) → Doing A call.Answer
  | .updateGauge name value =>
      if names.contains name then pure (.failure (.storage (.refused name)))
      else serve (.updateGauge name value)
  | .updateCounter name delta =>
      if names.contains name then pure (.failure (.storage (.refused name)))
      else serve (.updateCounter name delta)
  | call => serve call

/-- A store that cannot be listed. -/
def broken (serve : (call : Call) → Doing A call.Answer) : (call : Call) → Doing A call.Answer
  | .getAll => pure (.failure (.unexpected (.mishap .runtime "broken")))
  | call => serve call

end Telemetry.Store
