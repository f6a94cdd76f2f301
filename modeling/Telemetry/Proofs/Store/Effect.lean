import Telemetry.Proofs.Contents
import Telemetry.Proofs.Store.Alone

/-!
# The effect of a call

`Call.effect` says what a call does to contents, and `Call.found` what it returns.  `Served` says
how a store may answer: the effect is had and returned, or the counter would leave its range, or
the medium fails; only the first of these changes the contents.
-/

namespace Telemetry.Store

/-- The contents after a call, unless it would take a counter out of its range. -/
def Call.effect : Call → Contents → Except Error Contents
  | .updateGauge name value, c => .ok (c.setGauge name value)
  | .updateCounter name delta, c => c.setCounter name <$> checked name (c.total name + delta)
  | .setCounter name value, c => c.setCounter name <$> checked name value
  | _, c => .ok c

/-- What a call returns from the contents that it leaves. -/
def Call.found : (call : Call) → Contents → call.Result
  | .updateGauge .., _ => ()
  | .updateCounter .., _ => ()
  | .setCounter .., _ => ()
  | .getGauge name, c => c.gauges.get? name
  | .getCounter name, c => c.counters.get? name
  | .getAll, c => c.snapshot
  | .save, _ => ()
  | .ping, _ => ()

/-- The counter that a call changes, if it changes one. -/
def Call.counter? : Call → Option String
  | .updateCounter name _ => some name
  | .setCounter name _ => some name
  | _ => none

/-- What a call adds to a counter is within range. -/
def Call.Bindable : Call → Prop
  | .updateCounter _ delta => InRange delta
  | _ => True

section

variable {ρ ω : Type} (effect : Contents → Except Error Contents) (found : Contents → ρ)

/-- How something with an effect on contents may be answered, and the contents after it. -/
inductive Served (c : Contents) : Outcome Error ρ → Contents → Prop
  /-- It has its effect. -/
  | done {after : Contents} (h : effect c = .ok after) : Served c (.value (found after)) after
  /-- A counter would leave its range. -/
  | refused {e : Error} (h : effect c = .error e) : Served c (.failure e) c
  /-- The medium fails. -/
  | failed {after : Contents} (h : effect c = .ok after) (fault : Fault) :
      Served c (.failure (.storage fault)) c

/-- How something with an effect may be answered in a world.  What is refused leaves the medium
alone. -/
structure Answered (w : World ω) (outcome : Outcome Error ρ) (w' : World ω) : Prop where
  served : Served effect found w.contents outcome w'.contents
  untouched : ∀ e, effect w.contents = .error e → w' = w

end

/-- What is looked up is answered, and nothing changes. -/
theorem answered_lookUp {ω : Type} {call : Call} {w : World ω}
    (h : call.effect w.contents = .ok w.contents) :
    Answered call.effect call.found w (.value (call.found w.contents)) w :=
  ⟨.done h, fun _ _ => rfl⟩

/-! ### Counters in range -/

/-- A checked change of a counter puts a sum within range. -/
theorem setCounter_checked {c after : Contents} {name : String} {sum : Int}
    (h : c.setCounter name <$> checked name sum = .ok after) :
    InRange sum ∧ after = c.setCounter name sum := by
  unfold checked at h
  split at h
  next range => exact ⟨range, (Except.ok.inj h).symm⟩
  next => cases h

/-- A checked change of a counter is refused if its sum is out of range. -/
theorem setCounter_checked_error {c : Contents} {name : String} {sum : Int} {e : Error}
    (h : c.setCounter name <$> checked name sum = .error e) :
    ¬ InRange sum ∧ e = .overflow name := by
  unfold checked at h
  split at h
  next => cases h
  next range => exact ⟨range, (Except.error.inj h).symm⟩

theorem Call.bounded_effect {call : Call} {c after : Contents} (bounded : c.Bounded)
    (h : call.effect c = .ok after) : after.Bounded := by
  cases call with
  | updateGauge name value =>
    cases h
    exact bounded
  | updateCounter name delta =>
    obtain ⟨range, rfl⟩ := setCounter_checked h
    exact bounded.setCounter range
  | setCounter name value =>
    obtain ⟨range, rfl⟩ := setCounter_checked h
    exact bounded.setCounter range
  | getGauge | getCounter | getAll | save | ping =>
    cases h
    exact bounded

/-- **The only refusal is that of a counter that would leave its range.** -/
theorem Call.effect_eq_error {call : Call} {c : Contents} {e : Error}
    (h : call.effect c = .error e) :
    ∃ name, e = .overflow name ∧
      ((∃ delta, call = .updateCounter name delta ∧ ¬ InRange (c.total name + delta)) ∨
        ∃ value, call = .setCounter name value ∧ ¬ InRange value) := by
  cases call with
  | updateCounter name delta =>
    obtain ⟨range, rfl⟩ := setCounter_checked_error h
    exact ⟨name, rfl, .inl ⟨delta, rfl, range⟩⟩
  | setCounter name value =>
    obtain ⟨range, rfl⟩ := setCounter_checked_error h
    exact ⟨name, rfl, .inr ⟨value, rfl, range⟩⟩
  | updateGauge | getGauge | getCounter | getAll | save | ping => cases h

/-- What is answered as the effect of a call fails for no reason that nothing expects. -/
theorem Served.expected {ρ : Type} {call : Call} {found : Contents → ρ} {c c' : Contents}
    {failure : Failure} (h : Served call.effect found c (.failure (.unexpected failure)) c') :
    False := by
  cases h with
  | refused refused =>
    obtain ⟨name, overflow, -⟩ := Call.effect_eq_error refused
    cases overflow

end Telemetry.Store
