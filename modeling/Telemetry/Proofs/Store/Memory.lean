import Telemetry.Proofs.Store.Effect
import Telemetry.Store.Memory

/-!
# Calls of a memory store

A memory store has no medium that could fail, so a call is done or refused.
-/

namespace Telemetry.Store.Memory

open Dialogue

/-- There are no steps that anything could come of. -/
def may : (s : Step) → World Unit → s.Answer → Unit → Prop := fun s => nomatch s

def perform : (s : Step) → Unit → s.Answer × Unit := fun s => nomatch s

variable {w : World Unit}

/-- A change is answered as its effect is. -/
theorem always_change {effect : Contents → Except Error Contents} :
    Always (within may) (fun _ => True) (Answered effect (fun _ => ()) w) (change effect) w := by
  refine always_locked (always_contents ?_)
  cases h : effect w.contents with
  | ok after =>
    refine always_setContents trivial ⟨trivial, .done h, fun e he => ?_⟩
    cases h.symm.trans he
  | error e => exact ⟨trivial, .refused h, fun _ _ => rfl⟩

/-- A change fails only where it is refused. -/
theorem always_change_unless_refused {effect : Contents → Except Error Contents} :
    Always (within may) (fun _ => True)
      (fun outcome _ => ∀ e, outcome = .failure e → effect w.contents = .error e)
      (change effect) w := by
  refine always_locked (always_contents ?_)
  cases h : effect w.contents with
  | ok after => exact always_setContents trivial ⟨trivial, fun _ he => nomatch he⟩
  | error e =>
    refine ⟨trivial, ?_⟩
    rintro _ ⟨⟩
    rfl

/-- **Every call is answered as its effect is.** -/
theorem always_serve (call : Call) :
    Always (within may) (fun _ => True) (Answered call.effect call.found w) (serve call) w := by
  cases call with
  | updateGauge | updateCounter | setCounter => exact always_change
  | getGauge | getCounter | getAll => exact always_lookUp trivial (answered_lookUp rfl)
  | save => exact ⟨trivial, answered_lookUp rfl⟩
  | ping => exact ⟨trivial, .failed rfl _, fun e he => nomatch he⟩

end Telemetry.Store.Memory
