import Telemetry.Proofs.Store.Alone

/-!
# Steps that are broken off

On a brittle medium a step may be refused, and whoever waits for one may be cancelled.  The medium
may carry such a step out all the same, so a wait that is cancelled leaves the state before the step
or the one after it (`Tried`, `Tries.concludes`).
-/

namespace Telemetry.Store

open Dialogue

/-- What a step may meet instead of going through. -/
inductive Hit (φ : Type)
  | refused (fault : φ)
  /-- Whoever waits for the step is cancelled; it may be carried out all the same. -/
  | cancelled (carriedOut : Bool)

/-- A medium whose steps may be refused, and on which waits may be cancelled. -/
structure Brittle (κ φ : Type) where
  state : κ
  /-- What the steps to come meet, in order.  Those past the end go through. -/
  script : List (Option (Hit φ)) := []

variable {S κ φ ε : Type} {A : S → Type} {failure : φ → ε} {f : κ → Except ε κ}

/-- Do something with the state, unless the script refuses it or cancels the wait. -/
def Brittle.attempt (failure : φ → ε) (m : Brittle κ φ) (f : κ → Except ε κ) :
    Outcome ε Unit × Brittle κ φ :=
  match m.script with
  | some (.refused fault) :: script => (.failure (failure fault), { m with script })
  | some (.cancelled true) :: script =>
      match f m.state with
      | .ok state => (.cancelled, { state, script })
      | .error _ => (.cancelled, { m with script })
  | some (.cancelled false) :: script => (.cancelled, { m with script })
  | _ =>
      match f m.state with
      | .ok state => (.value (), { state, script := m.script.tail })
      | .error e => (.failure e, { m with script := m.script.tail })

/-- What may come of a step: it is done, it fails, or the wait for it is cancelled. -/
inductive Tried (failure : φ → ε) (f : κ → Except ε κ) (s : κ) : Outcome ε Unit → κ → Prop
  | done {s' : κ} (h : f s = .ok s') : Tried failure f s (.value ()) s'
  | failed {e : ε} (h : f s = .error e) : Tried failure f s (.failure e) s
  | refused (fault : φ) : Tried failure f s (.failure (failure fault)) s
  | cancelled : Tried failure f s .cancelled s
  | carriedOut {s' : κ} (h : f s = .ok s') : Tried failure f s .cancelled s'

theorem tried_attempt (failure : φ → ε) (m : Brittle κ φ) (f : κ → Except ε κ) :
    Tried failure f m.state (m.attempt failure f).1 (m.attempt failure f).2.state := by
  unfold Brittle.attempt
  split
  · exact .refused _
  · split
    next h => exact .carriedOut h
    next => exact .cancelled
  · exact .cancelled
  · split
    next h => exact .done h
    next h => exact .failed h

/-! ### Rules -/

/-- A store with some contents, on a medium in some state. -/
structure At (c : Contents) (p : κ → Prop) (w : World (Brittle κ φ)) : Prop where
  contents : w.contents = c
  state : p w.medium.state

theorem At.mono {c : Contents} {p q : κ → Prop} {w : World (Brittle κ φ)} (h : At c p w)
    (weaken : ∀ s, p s → q s) : At c q w :=
  ⟨h.contents, weaken _ h.state⟩

variable {may : (s : S) → World (Brittle κ φ) → A s → Brittle κ φ → Prop}
  {w : World (Brittle κ φ)} {c : Contents} {p q r : κ → Prop} {p' : ε → κ → Prop}

/-- A step is known by what may come of it. -/
theorem always_tried (s : S) {after : A s → World (Brittle κ φ) → Prop}
    (h : ∀ answer m, may s w answer m → after answer { w with medium := m }) :
    Always (within may) (fun _ => True) after (step s) w :=
  always_step trivial fun answer m hm => ⟨trivial, h answer m hm⟩

/-- Nothing else may come of a dialogue than what comes of one step. -/
def Tries (may : (s : S) → World (Brittle κ φ) → A s → Brittle κ φ → Prop) (failure : φ → ε)
    (f : κ → Except ε κ) (d : Doing A (Outcome ε Unit)) : Prop :=
  ∀ (w : World (Brittle κ φ)) (after : Outcome ε Unit → World (Brittle κ φ) → Prop),
    (∀ outcome m, Tried failure f w.medium.state outcome m.state →
      after outcome { w with medium := m }) →
    Always (within may) (fun _ => True) after d w

/-- **A step is done, leaves everything as it was, or is broken off** before it is done or after. -/
theorem Tries.concludes {d : Doing A (Outcome ε Unit)} (tries : Tries may failure f d)
    (h : At c p w) (done : ∀ s, p s → ∀ s', f s = .ok s' → q s')
    (failed : ∀ s, p s → ∀ e, f s = .error e → p' e s)
    (refused : ∀ s, p s → ∀ fault, p' (failure fault) s) (before : ∀ s, p s → r s)
    (after : ∀ s, q s → r s) :
    Always (within may) (fun _ => True)
      (Concludes (fun _ => At c q) (fun e => At c (p' e)) (At c r)) d w := by
  apply tries
  rintro outcome ⟨state, script⟩ tried
  cases tried with
  | done h' => exact ⟨h.contents, done _ h.state _ h'⟩
  | failed h' => exact ⟨h.contents, failed _ h.state _ h'⟩
  | refused fault => exact ⟨h.contents, refused _ h.state fault⟩
  | cancelled => exact ⟨h.contents, before _ h.state⟩
  | carriedOut h' => exact ⟨h.contents, after _ (done _ h.state _ h')⟩

end Telemetry.Store
