import Telemetry.Proofs.Dialogue
import Telemetry.Retry

/-!
# What holds of an operation that is tried again

An operation on a schedule is known by what one attempt does.  If each attempt that fails with
some prospect leaves a state from which the next one may start, then whatever an attempt
guarantees of its outcome holds of the outcome of the whole schedule (`always_run`).
-/

namespace Telemetry.Retry

open Dialogue

variable {ε Q α σ : Type} {A : Q → Type}

/-- Surroundings in which `rests` says what comes of a pause: whether it goes through or is cut
short, and the state after it.  Notes change nothing. -/
structure Surroundings.Steady (around : Surroundings ε Q A) (may : Manner A σ)
    (during : σ → Prop) (rests : σ → Bool → σ → Prop) : Prop where
  pause : ∀ d s (after : Bool → σ → Prop), during s →
    (∀ through t, rests s through t → during t ∧ after through t) →
    Always may during after (around.pause d) s
  note : ∀ n s (after : Unit → σ → Prop), during s → after () s →
    Always may during after (around.note n) s

/-- Surroundings in which pauses go through, and in which neither pauses nor notes change
anything. -/
structure Surroundings.Calm (around : Surroundings ε Q A) (may : Manner A σ)
    (during : σ → Prop) : Prop where
  pause : ∀ d s (after : Bool → σ → Prop), during s → after true s →
    Always may during after (around.pause d) s
  note : ∀ n s (after : Unit → σ → Prop), during s → after () s →
    Always may during after (around.note n) s

variable {may : Manner A σ} {during : σ → Prop} {around : Surroundings ε Q A}
  {prospect : ε → Prospect} {operation : Dialogue Q A (Outcome ε α)}
  {between : Outcome ε α → σ → Prop} {rests : σ → Bool → σ → Prop}

theorem Surroundings.Calm.steady (calm : around.Calm may during) :
    around.Steady may during fun s through t => through = true ∧ t = s where
  pause d s after now h := calm.pause d s after now (h true s ⟨rfl, rfl⟩).2
  note := calm.note

/-- One attempt ends in a failure with some prospect, or settles the operation. -/
theorem always_attempt (steady : around.Steady may during rests) {number : Nat} {delay : Double}
    {s : σ} {after : Except ε (Outcome (GivenUp ε) α) → σ → Prop} {ready : σ → Prop}
    (once : ∀ s, ready s → Always may during between operation s)
    (rested : ∀ s through t, ready s → rests s through t → ready t)
    (broken : ∀ t, ready t → rests s false t → after (.ok .cancelled) t)
    (value : ∀ a t, between (.value a) t → after (.ok (.value a)) t)
    (cancelled : ∀ t, between .cancelled t → after (.ok .cancelled) t)
    (retriable : ∀ e t, prospect e = .retriable → between (.failure e) t → after (.error e) t)
    (fatal : ∀ e t, prospect e = .fatal → between (.failure e) t →
      after (.ok (.failure (.fatal e))) t)
    (h : ready s) :
    Always may during after (attempt around prospect operation number delay) s := by
  -- Whether or not there is a pause, the steps after it are the same.
  have paused (steps : Bool → Dialogue Q A (Except ε (Outcome (GivenUp ε) α)))
      (through : ∀ t, ready t → Always may during after (steps true) t)
      (short : ∀ t, ready t → rests s false t → Always may during after (steps false) t) :
      Always may during after
        (if delay.isPositive then around.pause delay >>= steps else pure true >>= steps) s := by
    split
    · refine always_bind.2 (steady.pause _ _ _ (once s h).now fun answer t possible => ?_)
      have still := rested s answer t h possible
      refine ⟨(once t still).now, ?_⟩
      cases answer with
      | true => exact through t still
      | false => exact short t still possible
    · exact through s h
  unfold attempt
  refine paused _ (fun t ht => ?_) fun t ht possible => ⟨(once t ht).now, broken t ht possible⟩
  dsimp only
  rw [if_pos rfl]
  refine always_bind.2 (steady.note _ _ _ (once t ht).now ?_)
  refine always_bind.2 ((once t ht).mono fun outcome t now h => ?_)
  cases outcome with
  | value a => exact ⟨now, value a t h⟩
  | cancelled => exact ⟨now, cancelled t h⟩
  | failure e =>
    dsimp only
    cases hp : prospect e with
    | retriable => exact ⟨now, retriable e t hp h⟩
    | fatal => exact always_bind.2 (steady.note _ _ _ now ⟨now, fatal e t hp h⟩)

/-- What one attempt of a schedule comes to: it settles the operation, or it leaves a state for the
next attempt. -/
def Attempted (after : Outcome (GivenUp ε) α → σ → Prop) (left : ε → σ → Prop) :
    Except ε (Outcome (GivenUp ε) α) → σ → Prop
  | .ok outcome, t => after outcome t
  | .error e, t => left e t

/-- **A schedule keeps what each attempt keeps**: `ready` holds before every attempt, because it
holds before the first one and after every failure with some prospect. -/
theorem always_run_steady (steady : around.Steady may during rests) {ready : σ → Prop}
    {after : Outcome (GivenUp ε) α → σ → Prop}
    (once : ∀ s, ready s → Always may during between operation s)
    (again : ∀ e t, between (.failure e) t → ready t)
    (rested : ∀ s through t, ready s → rests s through t → ready t)
    (broken : ∀ s t, ready t → rests s false t → after .cancelled t)
    (value : ∀ a t, between (.value a) t → after (.value a) t)
    (cancelled : ∀ t, between .cancelled t → after .cancelled t)
    (fatal : ∀ e t, prospect e = .fatal → between (.failure e) t →
      after (.failure (.fatal e)) t)
    (exhausted : ∀ n e t, prospect e = .retriable → between (.failure e) t →
      after (.failure (.exhausted n e)) t)
    {schedule : Schedule} {s : σ} (h : ready s) :
    Always may during after (run around prospect schedule operation) s := by
  have settled (number : Nat) (delay : Double) {s : σ} (h : ready s) :
      Always may during
        (Attempted after fun e t => prospect e = .retriable ∧ between (.failure e) t)
        (attempt around prospect operation number delay) s :=
    always_attempt steady once rested (broken s) value cancelled (fun _ _ hp ht => ⟨hp, ht⟩) fatal h
  obtain ⟨first, later⟩ := schedule
  rw [run]
  generalize 1 = number
  -- The induction is on the pauses to come; `ready` is what an attempt hands to the next one.
  induction later generalizing number first s with
  | nil =>
    refine always_bind.2 ((settled number first h).mono fun result t now ht => ?_)
    cases result with
    | ok outcome => exact ⟨now, ht⟩
    | error e => exact always_bind.2 (steady.note _ _ _ now ⟨now, exhausted _ e t ht.1 ht.2⟩)
  | cons next later ih =>
    refine always_bind.2 ((settled number first h).mono fun result t now ht => ?_)
    cases result with
    | ok outcome => exact ⟨now, ht⟩
    | error e => exact always_bind.2 (steady.note _ _ _ now (ih (again e t ht.2) next _))

/-- So does one whose pauses all go through. -/
theorem always_run (calm : around.Calm may during) {ready : σ → Prop}
    {after : Outcome (GivenUp ε) α → σ → Prop}
    (once : ∀ s, ready s → Always may during between operation s)
    (again : ∀ e t, between (.failure e) t → ready t)
    (value : ∀ a t, between (.value a) t → after (.value a) t)
    (cancelled : ∀ t, between .cancelled t → after .cancelled t)
    (fatal : ∀ e t, prospect e = .fatal → between (.failure e) t →
      after (.failure (.fatal e)) t)
    (exhausted : ∀ n e t, prospect e = .retriable → between (.failure e) t →
      after (.failure (.exhausted n e)) t)
    {schedule : Schedule} {s : σ} (h : ready s) :
    Always may during after (run around prospect schedule operation) s :=
  always_run_steady calm.steady once again (fun _ _ _ ready rested => rested.2 ▸ ready) nofun value
    cancelled fatal exhausted h

/-! ### What is asked -/

/-- An operation that is tried again asks what one attempt of it asks, and pauses and notes. -/
theorem asks_run {p : Q → Prop} (pause : ∀ d, (around.pause d).Asks p)
    (note : ∀ n, (around.note n).Asks p) (once : operation.Asks p) (schedule : Schedule) :
    (run around prospect schedule operation).Asks p := by
  have paused (delay : Double) (steps : Bool → Dialogue Q A (Except ε (Outcome (GivenUp ε) α)))
      (each : ∀ through, (steps through).Asks p) :
      (if delay.isPositive then around.pause delay >>= steps else pure true >>= steps).Asks p := by
    split
    · exact asks_bind (pause delay) each
    · exact each true
  have attempted (number : Nat) (delay : Double) :
      (attempt around prospect operation number delay).Asks p := by
    unfold attempt
    refine paused delay _ fun through => ?_
    dsimp only
    split
    · refine asks_bind (note _) fun _ => asks_bind once fun outcome => ?_
      cases outcome with
      | value | cancelled => trivial
      | failure e =>
        dsimp only
        split
        · trivial
        · exact asks_bind (note _) fun _ => trivial
    · trivial
  obtain ⟨first, later⟩ := schedule
  rw [run]
  generalize 1 = number
  induction later generalizing number first with
  | nil =>
    refine asks_bind (attempted number first) fun result => ?_
    cases result with
    | ok outcome => trivial
    | error e => exact asks_bind (note _) fun _ => trivial
  | cons next later ih =>
    refine asks_bind (attempted number first) fun result => ?_
    cases result with
    | ok outcome => trivial
    | error e => exact asks_bind (note _) fun _ => ih next _

end Telemetry.Retry
