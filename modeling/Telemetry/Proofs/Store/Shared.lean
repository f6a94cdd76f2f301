import Telemetry.Proofs.Store.Alone

/-!
# Calls that share a store

A call that works on a store together with others is disturbed wherever it waits.  What the others
may do then depends on how far it has come (`Stage`): they come and go while it is outside the lock,
they leave the contents alone while it is inside, and while it is in turn to write they do nothing
to the medium that matters to it (`Disturbed`).

`Orderly` says of a call that it keeps to this itself, whatever the others do: it asks for the lock
before anything else, changes the contents only as a writer, takes steps only inside, and does to the
medium only what is allowed.  It is closed under every disturbance, so that it says what holds of one
call among others in terms of this call alone.
-/

namespace Telemetry.Store

open Dialogue

variable {S ω : Type} {A : S → Type} {ε α β : Type}

/-- How far a call has come. -/
inductive Stage
  | outside
  | waiting (mode : Lock.Mode)
  /-- Inside the lock, which it entered when there were these contents. -/
  | inside (mode : Lock.Mode) (entered : Contents)
  /-- Inside the lock, and in turn to write. -/
  | inTurn (mode : Lock.Mode) (entered : Contents)
  /-- It has left the lock. -/
  | gone (entered : Contents)

/-- What is known of a medium that calls share. -/
structure Sharing (A : S → Type) (ω : Type) where
  /-- What may come of a step. -/
  may : (s : S) → World ω → A s → ω → Prop
  /-- What a step may do to the medium, given the contents. -/
  step : World ω → World ω → Prop
  /-- Media that are the same to a call in turn. -/
  alike : ω → ω → Prop
  refl : ∀ m, alike m m
  trans : ∀ m m' m'', alike m m' → alike m' m'' → alike m m''

variable {sharing : Sharing A ω}

/-- What others may do while a call waits at a stage. -/
def Disturbed (sharing : Sharing A ω) : Stage → World ω → World ω → Prop
  | .inside _ _, w, w' => w'.contents = w.contents
  | .inTurn _ _, w, w' => w'.contents = w.contents ∧ sharing.alike w.medium w'.medium
  | _, _, _ => True

theorem Disturbed.refl (stage : Stage) (w : World ω) : Disturbed sharing stage w w := by
  cases stage with
  | inside => rfl
  | inTurn => exact ⟨rfl, sharing.refl _⟩
  | outside | waiting | gone => trivial

theorem Disturbed.trans {stage : Stage} {w w' w'' : World ω} (h : Disturbed sharing stage w w')
    (h' : Disturbed sharing stage w' w'') : Disturbed sharing stage w w'' := by
  cases stage with
  | inside => exact Eq.trans h' h
  | inTurn => exact ⟨h'.1.trans h.1, sharing.trans _ _ _ h.2 h'.2⟩
  | outside | waiting | gone => trivial

/-- A call at a stage is inside the lock. -/
def Stage.IsInside : Stage → Prop
  | .inside _ _ => True
  | .inTurn _ _ => True
  | _ => False

/-- What a call does that is not in turn is not noticed by one that is. -/
def Stage.Allows (sharing : Sharing A ω) : Stage → ω → ω → Prop
  | .inTurn _ _, _, _ => True
  | _, m, m' => sharing.alike m m'

/-- However a call is answered and disturbed, it goes through the stages in order, does nothing that
is not allowed, and ends as `post` says. -/
def Orderly (sharing : Sharing A ω) (post : α → Stage → World ω → Prop) :
    Doing A α → Stage → World ω → Prop
  | .done a, stage, w => post a stage w
  | .ask (.enter mode) next, stage, _ =>
      stage = .outside ∧ ∀ w, Orderly sharing post (next true) (.inside mode w.contents) w
  | .ask .leave next, stage, w =>
      ∃ mode entered, stage = .inside mode entered ∧ Orderly sharing post (next ()) (.gone entered) w
  | .ask .takeTurn next, stage, w =>
      ∃ mode entered, stage = .inside mode entered ∧
        ∀ m, Orderly sharing post (next true) (.inTurn mode entered) { w with medium := m }
  | .ask .endTurn next, stage, w =>
      ∃ mode entered, stage = .inTurn mode entered ∧
        Orderly sharing post (next ()) (.inside mode entered) w
  | .ask .contents next, stage, w =>
      stage.IsInside ∧ Orderly sharing post (next w.contents) stage w
  | .ask (.setContents c) next, stage, w =>
      ∃ entered, stage = .inside .write entered ∧
        Orderly sharing post (next ()) stage { w with contents := c }
  | .ask (.step s) next, stage, w =>
      stage.IsInside ∧ ∀ answer m, sharing.may s w answer m →
        sharing.step w { w with medium := m } ∧ stage.Allows sharing w.medium m ∧
          ∀ w', Disturbed sharing stage { w with medium := m } w' →
            Orderly sharing post (next answer) stage w'

/-- A call ends outside the lock, with an answer that fits the contents from when it entered and the
ones it leaves. -/
def Settled (served : Contents → α → Contents → Prop) : α → Stage → World ω → Prop
  | a, .outside, _ => ∀ c, served c a c
  | a, .gone entered, w => served entered a w.contents
  | _, _, _ => False

section

variable {post : α → Stage → World ω → Prop} {stage : Stage} {w : World ω}

/-- **A sequence is orderly if its parts are**, the second from wherever the first ends. -/
theorem Orderly.bind {d : Doing A α} {f : α → Doing A β} {post' : β → Stage → World ω → Prop}
    (h : Orderly sharing post d stage w)
    (rest : ∀ a stage w, post a stage w → Orderly sharing post' (f a) stage w) :
    Orderly sharing post' (d >>= f) stage w := by
  induction d generalizing stage w with
  | done a => exact rest a stage w h
  | ask q next ih =>
    cases q with
    | enter mode => exact ⟨h.1, fun w => ih true (h.2 w)⟩
    | leave =>
      obtain ⟨mode, entered, rfl, h⟩ := h
      exact ⟨mode, entered, rfl, ih () h⟩
    | takeTurn =>
      obtain ⟨mode, entered, rfl, h⟩ := h
      exact ⟨mode, entered, rfl, fun m => ih true (h m)⟩
    | endTurn =>
      obtain ⟨mode, entered, rfl, h⟩ := h
      exact ⟨mode, entered, rfl, ih () h⟩
    | contents => exact ⟨h.1, ih _ h.2⟩
    | setContents c =>
      obtain ⟨entered, rfl, h⟩ := h
      exact ⟨entered, rfl, ih () h⟩
    | step s =>
      refine ⟨h.1, fun answer m possible => ?_⟩
      obtain ⟨stepped, allowed, h⟩ := h.2 answer m possible
      exact ⟨stepped, allowed, fun w' disturbed => ih answer (h w' disturbed)⟩

theorem Orderly.mono {d : Doing A α} {post' : α → Stage → World ω → Prop}
    (h : Orderly sharing post d stage w)
    (weaken : ∀ a stage w, post a stage w → post' a stage w) :
    Orderly sharing post' d stage w := by
  rw [← bind_done d]
  exact h.bind weaken

/-- A call that has left the lock does nothing more. -/
theorem orderly_gone {d : Doing A α} {entered : Contents}
    (h : Orderly sharing post d (.gone entered) w) :
    ∃ a, d = .done a ∧ post a (.gone entered) w := by
  cases d with
  | done a => exact ⟨a, rfl, h⟩
  | ask q next =>
    cases q with
    | enter mode => cases h.1
    | leave | takeTurn | endTurn =>
      obtain ⟨_, _, impossible, _⟩ := h
      cases impossible
    | setContents c =>
      obtain ⟨_, impossible, _⟩ := h
      cases impossible
    | contents => exact h.1.elim
    | step s => exact h.1.elim

/-! ### Rules -/

/-- What goes on inside the lock starts with the contents that are found there. -/
theorem orderly_locked {mode : Lock.Mode} {body : Doing A (Outcome ε α)}
    {post : Outcome ε α → Stage → World ω → Prop}
    (h : ∀ w : World ω, Orderly sharing
      (fun outcome stage w' => stage = .inside mode w.contents ∧ post outcome (.gone w.contents) w')
      body (.inside mode w.contents) w) :
    Orderly sharing post (locked mode body) .outside w := by
  refine ⟨rfl, fun w => (h w).bind ?_⟩
  rintro outcome _ w' ⟨rfl, ended⟩
  exact ⟨mode, w.contents, rfl, ended⟩

/-- What goes on in turn starts with whatever medium is found there. -/
theorem orderly_inTurn {mode : Lock.Mode} {entered : Contents} {body : Doing A (Outcome ε α)}
    {post : Outcome ε α → Stage → World ω → Prop}
    (h : ∀ m, Orderly sharing
      (fun outcome stage w' =>
        stage = .inTurn mode entered ∧ post outcome (.inside mode entered) w')
      body (.inTurn mode entered) { w with medium := m }) :
    Orderly sharing post (inTurn body) (.inside mode entered) w := by
  refine ⟨mode, entered, rfl, fun m => (h m).bind ?_⟩
  rintro outcome _ w' ⟨rfl, ended⟩
  exact ⟨mode, entered, rfl, ended⟩

theorem orderly_contents {f : Contents → Doing A α} (inside : stage.IsInside)
    (h : Orderly sharing post (f w.contents) stage w) :
    Orderly sharing post (contents >>= f) stage w :=
  ⟨inside, h⟩

theorem orderly_setContents {c entered : Contents} {f : Unit → Doing A α}
    (h : Orderly sharing post (f ()) (.inside .write entered) { w with contents := c }) :
    Orderly sharing post (setContents c >>= f) (.inside .write entered) w :=
  ⟨entered, rfl, h⟩

/-- **Steps that are known one by one are orderly in turn**, if neither they nor what is known of
them tells apart media that are alike. -/
theorem orderly_of_stepwise {d : Doing A α} {mode : Lock.Mode} {entered : Contents}
    {after : α → World ω → Prop} (steps : d.Asks fun q => ∃ s, q = .step s)
    (same : ∀ (s : S) (w : World ω) m answer m', sharing.alike w.medium m →
      sharing.may s { w with medium := m } answer m' → sharing.may s w answer m')
    (same' : ∀ (w : World ω) m m', sharing.alike w.medium m →
      sharing.step w { w with medium := m' } →
      sharing.step { w with medium := m } { w with medium := m' })
    (kept : ∀ a (w : World ω) m, sharing.alike w.medium m → after a w →
      after a { w with medium := m })
    (h : Stepwise (within sharing.may) sharing.step after d w) {w' : World ω}
    (disturbed : Disturbed sharing (.inTurn mode entered) w w') :
    Orderly sharing (fun a stage w' => stage = .inTurn mode entered ∧ after a w') d
      (.inTurn mode entered) w' := by
  obtain ⟨c, m⟩ := w
  obtain ⟨c', m'⟩ := w'
  obtain ⟨rfl, alike⟩ := disturbed
  induction d generalizing m m' with
  | done a => exact ⟨rfl, kept a _ _ alike h⟩
  | ask q next ih =>
    obtain ⟨⟨s, rfl⟩, steps⟩ := steps
    refine ⟨trivial, fun answer m₁ possible => ?_⟩
    have possible' := same s _ _ answer m₁ alike possible
    obtain ⟨stepped, rest⟩ := h answer ⟨c', m₁⟩ ⟨rfl, possible'⟩
    refine ⟨same' _ _ _ alike stepped, trivial, ?_⟩
    rintro ⟨_, m₂⟩ ⟨rfl, alike₂⟩
    exact ih answer (steps answer) m₁ m₂ rest alike₂

end

end Telemetry.Store
