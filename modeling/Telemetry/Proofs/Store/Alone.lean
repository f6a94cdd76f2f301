import Telemetry.Proofs.Dialogue
import Telemetry.Store

/-!
# A store that nothing else uses

What may come of the steps of a medium determines what may come of all questions of a store
that works on it alone (`within`).  It may depend on the contents at the moment of a step.  The
rules below follow the words that backends are written in: to be inside the lock or in turn
changes nothing, contents are what was last set, and a step is known by what may come of it.

`serveEach` serves calls one after the other, and what every call keeps holds after all of
them (`always_serveEach`); `serveWhileFine` stops at the first one that does not succeed
(`always_serveWhileFine`).
-/

namespace Telemetry.Store

open Dialogue

variable {S ω : Type} {A : S → Type} {ε α : Type}

/-! ### What may come of questions -/

/-- What may come of the questions of a store, given what may come of its steps. -/
def within (may : (s : S) → World ω → A s → ω → Prop) : Manner (Answer A) (World ω)
  | .enter _, w, inside, w' => (inside : Bool) = true ∧ w' = w
  | .leave, w, _, w' => w' = w
  | .takeTurn, w, inTurn, w' => (inTurn : Bool) = true ∧ w' = w
  | .endTurn, w, _, w' => w' = w
  | .contents, w, c, w' => c = w.contents ∧ w' = w
  | .setContents c, w, _, w' => w' = { w with contents := c }
  | .step s, w, answer, w' => w'.contents = w.contents ∧ may s w answer w'.medium

/-- A medium whose steps do what may come of them makes a store do what may come of it. -/
theorem within_alone {may : (s : S) → World ω → A s → ω → Prop} {perform : (s : S) → ω → A s × ω}
    {w : World ω} (possible : ∀ s, may s w (perform s w.medium).1 (perform s w.medium).2)
    (q : Question S) : within may q w (alone perform q w).1 (alone perform q w).2 := by
  cases q with
  | enter mode => exact ⟨rfl, rfl⟩
  | leave => rfl
  | takeTurn => exact ⟨rfl, rfl⟩
  | endTurn => rfl
  | contents => exact ⟨rfl, rfl⟩
  | setContents c => rfl
  | step s => exact ⟨rfl, possible s⟩

/-! ### Rules -/

section

variable {may : (s : S) → World ω → A s → ω → Prop} {during : World ω → Prop} {w : World ω}

theorem always_locked {mode : Lock.Mode} {body : Doing A (Outcome ε α)}
    {after : Outcome ε α → World ω → Prop} (h : Always (within may) during after body w) :
    Always (within may) during after (locked mode body) w := by
  refine always_bind.2 (always_say h.now ?_)
  rintro _ _ ⟨rfl, rfl⟩
  refine ⟨h.now, always_bind.2 (h.mono fun outcome t now ht => ?_)⟩
  refine always_bind.2 (always_say now ?_)
  rintro _ _ rfl
  exact ⟨now, now, ht⟩

theorem always_inTurn {body : Doing A (Outcome ε α)} {after : Outcome ε α → World ω → Prop}
    (h : Always (within may) during after body w) :
    Always (within may) during after (inTurn body) w := by
  refine always_bind.2 (always_say h.now ?_)
  rintro _ _ ⟨rfl, rfl⟩
  refine ⟨h.now, always_bind.2 (h.mono fun outcome t now ht => ?_)⟩
  refine always_bind.2 (always_say now ?_)
  rintro _ _ rfl
  exact ⟨now, now, ht⟩

theorem always_contents {f : Contents → Doing A α} {after : α → World ω → Prop}
    (h : Always (within may) during after (f w.contents) w) :
    Always (within may) during after (contents >>= f) w := by
  refine ⟨h.now, ?_⟩
  rintro _ _ ⟨rfl, rfl⟩
  exact h

theorem always_setContents {c : Contents} {f : Unit → Doing A α} {after : α → World ω → Prop}
    (now : during w) (h : Always (within may) during after (f ()) { w with contents := c }) :
    Always (within may) during after (setContents c >>= f) w := by
  refine ⟨now, ?_⟩
  rintro _ _ rfl
  exact h

/-- A step is known by what may come of it. -/
theorem always_step {s : S} {after : A s → World ω → Prop} (now : during w)
    (h : ∀ answer m, may s w answer m →
      during { w with medium := m } ∧ after answer { w with medium := m }) :
    Always (within may) during after (step s) w := by
  refine ⟨now, ?_⟩
  rintro answer ⟨c, m⟩ ⟨hc, hm⟩
  cases hc
  exact h answer m hm

/-- What is looked up is in the contents. -/
theorem always_lookUp {f : Contents → α} {after : Outcome ε α → World ω → Prop} (now : during w)
    (h : after (.value (f w.contents)) w) :
    Always (within may) during after (lookUp f) w :=
  always_locked (always_contents ⟨now, h⟩)

end

/-! ### Calls in sequence -/

def serveEach (serve : (call : Call) → Doing A call.Answer) : List Call → Doing A Unit
  | [] => pure ()
  | call :: later => do
      let _ ← serve call
      serveEach serve later

/-- What every call keeps holds after all of them. -/
theorem always_serveEach {may : (s : S) → World ω → A s → ω → Prop} {during rest : World ω → Prop}
    {serve : (call : Call) → Doing A call.Answer} {calls : List Call}
    (atRest : ∀ w, rest w → during w)
    (keeps : ∀ call ∈ calls, ∀ w, rest w →
      Always (within may) during (fun _ w' => rest w') (serve call) w)
    {w : World ω} (h : rest w) :
    Always (within may) during (fun _ w' => rest w') (serveEach serve calls) w := by
  induction calls generalizing w with
  | nil => exact ⟨atRest w h, h⟩
  | cons call later ih =>
    have first := keeps call List.mem_cons_self w h
    refine always_bind.2 (first.mono fun _ t _ ht => ?_)
    exact ih (fun call hcall => keeps call (List.mem_cons_of_mem _ hcall)) ht

/-- Serve calls for as long as they succeed; the result says whether all of them have. -/
def serveWhileFine (serve : (call : Call) → Doing A call.Answer) : List Call → Doing A Bool
  | [] => pure true
  | call :: later => do
      match ← serve call with
      | .value _ => serveWhileFine serve later
      | _ => pure false

/-- What every call keeps that succeeds holds after all of them, if all succeed. -/
theorem always_serveWhileFine {may : (s : S) → World ω → A s → ω → Prop} {rest : World ω → Prop}
    {serve : (call : Call) → Doing A call.Answer} {calls : List Call}
    (keeps : ∀ call ∈ calls, ∀ w, rest w → Always (within may) (fun _ => True)
      (fun outcome w' => ∀ result, outcome = .value result → rest w') (serve call) w)
    {w : World ω} (h : rest w) :
    Always (within may) (fun _ => True) (fun fine w' => fine = true → rest w')
      (serveWhileFine serve calls) w := by
  induction calls generalizing w with
  | nil => exact ⟨trivial, fun _ => h⟩
  | cons call later ih =>
    refine always_bind.2 ((keeps call List.mem_cons_self w h).mono fun outcome t _ ht => ?_)
    cases outcome with
    | value result =>
      exact ih (fun call hcall => keeps call (List.mem_cons_of_mem _ hcall)) (ht result rfl)
    | failure | cancelled => exact ⟨trivial, nofun⟩

end Telemetry.Store
