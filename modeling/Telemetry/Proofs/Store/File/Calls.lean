import Telemetry.Proofs.Store.File.Write

/-!
# Calls of a file store on a disk that fails

The file of a store shows what was installed last (`Shows`).  At every moment of a call it still
does, and what is installed is what was before or what the call leaves as the contents
(`Follows`).  A store that writes at once has installed its contents again when the call ends
(`always_serve`): a failed write takes its change back.

A path that no file can have makes a difference only to a call that comes to a write.  Such a call
goes astray: it fails, and its change stays (`always_serveAt`).
-/

namespace Telemetry.Store.File

open Dialogue

variable {config : Config} {w w' : World Rough} {effect : Contents → Except Error Contents}

/-- The file at a path shows what was installed last; it may be missing if that was nothing. -/
def Shows (path : Path) (m : Rough) : Prop :=
  (m.disk.node? path = none ∧ m.installed = .empty) ∨
    m.disk.node? path = some (.file (document m.installed))

/-- The file goes on showing what is installed, which is what was before or what comes of it. -/
structure Follows (path : Path) (effect : Contents → Except Error Contents) (w w' : World Rough) :
    Prop where
  shows : Shows path w.medium → Shows path w'.medium
  installed : w'.medium.installed = w.medium.installed ∨
    effect w.contents = .ok w'.medium.installed

theorem Follows.refl (path : Path) (effect : Contents → Except Error Contents) (w : World Rough) :
    Follows path effect w w :=
  ⟨id, .inl rfl⟩

/-- At every moment of a write of what comes of a call, the file follows. -/
theorem follows_of_write {path : Path} {after : Contents} (h : effect w.contents = .ok after)
    (written : Quiet path { w with contents := after } w' ∨
      Renewed path { w with contents := after } w') : Follows path effect w w' := by
  rcases written with quiet | renewed
  · refine ⟨fun hshows => ?_, .inl quiet.installed⟩
    unfold Shows
    rw [quiet.node, quiet.installed]
    exact hshows
  · refine ⟨fun _ => .inr ?_, .inr ?_⟩
    · rw [renewed.installed]
      exact renewed.node
    · rw [renewed.installed]
      exact h

/-- The contents are installed again where they were, if the store writes at once. -/
def Synced (config : Config) (w w' : World Rough) : Prop :=
  config.immediate = true → w.medium.installed = w.contents → w'.medium.installed = w'.contents

/-- **A change is answered as its effect is**, and the file follows. -/
theorem always_change :
    Always (within (Rough.may config.path)) (Follows config.path effect w)
      (fun outcome w' => Answered effect (fun _ => ()) w outcome w' ∧ Synced config w w')
      (change config effect) w := by
  have now := Follows.refl config.path effect w
  refine always_locked (always_contents ?_)
  cases h : effect w.contents with
  | error e => exact ⟨now, ⟨.refused h, fun _ _ => rfl⟩, fun _ synced => synced⟩
  | ok after =>
    have untouched {w'' : World Rough} (e : Error) (he : effect w.contents = .error e) :
        w'' = w := nomatch h.symm.trans he
    refine always_setContents now ?_
    let changed : World Rough := { w with contents := after }
    have follows {w' : World Rough} (written : Quiet config.path changed w' ∨
        Renewed config.path changed w') : Follows config.path effect w w' :=
      follows_of_write h written
    cases immediate : config.immediate with
    | false =>
      refine ⟨follows (.inl (Quiet.refl _ changed)), ⟨.done h, untouched⟩, fun himmediate => ?_⟩
      rw [immediate] at himmediate
      cases himmediate
    | true =>
      have written := (always_write config.path changed).weaken fun _ => follows
      refine always_bind.2 (written.mono fun outcome w' now' hw' => ?_)
      cases outcome with
      | value =>
        refine ⟨now', ⟨?_, untouched⟩, fun _ _ => ?_⟩
        · rw [hw'.contents]
          exact .done h
        · rw [hw'.installed, hw'.contents]
      | failure e =>
        obtain ⟨⟨fault, rfl⟩, quiet⟩ := hw'
        have back : Follows config.path effect w { w' with contents := w.contents } :=
          ⟨now'.shows, now'.installed⟩
        exact always_setContents now'
          ⟨back, ⟨.failed h fault, untouched⟩, fun _ synced => quiet.installed.trans synced⟩
      | cancelled => exact hw'.elim

/-- **Every call is answered as its effect is**, and the file follows at every moment of it. -/
theorem always_serve (config : Config) (call : Call) (w : World Rough) :
    Always (within (Rough.may config.path)) (Follows config.path call.effect w)
      (fun outcome w' => Answered call.effect call.found w outcome w' ∧ Synced config w w')
      (serve config call) w := by
  have now := Follows.refl config.path call.effect w
  cases call with
  | updateGauge | updateCounter | setCounter => exact always_change
  | getGauge | getCounter | getAll =>
    exact always_lookUp now ⟨answered_lookUp rfl, fun _ synced => synced⟩
  | ping => exact ⟨now, ⟨.failed rfl _, fun e he => nomatch he⟩, fun _ synced => synced⟩
  | save =>
    refine always_locked (always_contents ?_)
    have follows {w' : World Rough} (written : Quiet config.path w w' ∨ Renewed config.path w w') :
        Follows config.path Call.save.effect w w' := follows_of_write rfl written
    refine ((always_write config.path w).weaken fun _ => follows).mono fun outcome w' _ hw' => ?_
    cases outcome with
    | value =>
      refine ⟨⟨?_, fun e he => nomatch he⟩, fun _ _ => ?_⟩
      · rw [hw'.contents]
        exact .done rfl
      · rw [hw'.installed, hw'.contents]
    | failure e =>
      obtain ⟨⟨fault, rfl⟩, quiet⟩ := hw'
      refine ⟨⟨?_, fun e he => nomatch he⟩, fun _ synced => ?_⟩
      · rw [quiet.contents]
        exact .failed rfl fault
      · rw [quiet.installed, quiet.contents]
        exact synced
    | cancelled => exact hw'.elim

/-! ### Paths that no file can have -/

/-- A store writes its file for a call: to save, or after a change if it writes at once. -/
def Config.WritesFor (config : Config) : Call → Prop
  | .updateGauge .. | .updateCounter .. | .setCounter .. => config.immediate = true
  | .save => True
  | .getGauge _ | .getCounter _ | .getAll | .ping => False

/-- A call comes to a write, and no file can be at the path of the store. -/
def Config.LeadsAstray (config : Config) (call : Call) (c : Contents) : Prop :=
  config.path.all nameable = false ∧ config.WritesFor call ∧ ∃ after, call.effect c = .ok after

/-- How a call may be answered that may go astray: as its effect is, unless it does; it then fails,
and has its effect all the same. -/
inductive Returned {ρ : Type} (astray : Prop) (effect : Contents → Except Error Contents)
    (found : Contents → ρ) (w : World Rough) : Outcome Error ρ → World Rough → Prop
  | usual {outcome : Outcome Error ρ} {w' : World Rough} (arrives : ¬ astray)
      (answered : Answered effect found w outcome w') : Returned astray effect found w outcome w'
  | astray {w' : World Rough} (strays : astray) (changed : effect w.contents = .ok w'.contents) :
      Returned astray effect found w (.failure nowhere) w'

/-- The file is left alone, and nothing is installed. -/
structure Unwritten (path : Path) (w w' : World Rough) : Prop where
  node : w'.medium.disk.node? path = w.medium.disk.node? path
  installed : w'.medium.installed = w.medium.installed

theorem Unwritten.refl (path : Path) (w : World Rough) : Unwritten path w w := ⟨rfl, rfl⟩

theorem Quiet.unwritten {path : Path} (h : Quiet path w w') : Unwritten path w w' :=
  ⟨h.node, h.installed⟩

theorem Unwritten.follows {path : Path} (h : Unwritten path w w') : Follows path effect w w' := by
  refine ⟨fun shows => ?_, .inl h.installed⟩
  unfold Shows
  rw [h.node, h.installed]
  exact shows

/-- What comes of a call stays. -/
def Stays (effect : Contents → Except Error Contents) (w w' : World Rough) : Prop :=
  ∀ after, effect w.contents = .ok after → w'.contents = after

/-- A change goes astray if it is to be written and is not refused. -/
theorem always_changeNowhere {astray : Prop}
    (strays : astray ↔ config.immediate = true ∧ ∃ after, effect w.contents = .ok after) :
    Always (within (Rough.may config.path)) (Unwritten config.path w)
      (fun outcome w' => Returned astray effect (fun _ => ()) w outcome w' ∧ Stays effect w w')
      (changeNowhere config effect) w := by
  have now := Unwritten.refl config.path w
  refine always_locked (always_contents ?_)
  cases h : effect w.contents with
  | error e =>
    refine ⟨now, .usual (fun is => ?_) ⟨.refused h, fun _ _ => rfl⟩, fun _ he => ?_⟩
    · obtain ⟨-, after, done⟩ := strays.1 is
      cases h.symm.trans done
    · cases h.symm.trans he
  | ok after =>
    have stays {w' : World Rough} (same : w'.contents = after) : Stays effect w w' :=
      fun _ he => same.trans (Except.ok.inj (h.symm.trans he))
    refine always_setContents now ?_
    split
    next immediate =>
      have written := always_writeNowhere config.path { w with contents := after }
      refine (written.weaken fun _ quiet => ⟨quiet.node, quiet.installed⟩).mono ?_
      rintro _ w' - ⟨rfl, quiet⟩
      exact ⟨.astray (strays.2 ⟨immediate, after, h⟩) (quiet.contents ▸ h), stays quiet.contents⟩
    next later =>
      have untouched (e : Error) (he : effect w.contents = .error e) :
          { w with contents := after } = w := nomatch h.symm.trans he
      exact ⟨⟨rfl, rfl⟩, .usual (fun is => later (strays.1 is).1) ⟨.done h, untouched⟩, stays rfl⟩

/-- **A store whose file cannot be there writes nothing**, takes no change back, and leads astray
what comes to a write. -/
theorem always_serveNowhere (impossible : config.path.all nameable = false) (call : Call)
    (w : World Rough) :
    Always (within (Rough.may config.path)) (Unwritten config.path w)
      (fun outcome w' => Returned (config.LeadsAstray call w.contents) call.effect call.found w
        outcome w' ∧ Stays call.effect w w')
      (serveNowhere config call) w := by
  have now := Unwritten.refl config.path w
  have same {call : Call} (h : call.effect w.contents = .ok w.contents) : Stays call.effect w w :=
    fun _ he => Except.ok.inj (h.symm.trans he)
  cases call with
  | updateGauge | updateCounter | setCounter =>
    exact always_changeNowhere (and_iff_right impossible)
  | getGauge | getCounter | getAll =>
    refine always_lookUp now ⟨.usual (fun astray => astray.2.1) (answered_lookUp rfl), same rfl⟩
  | ping =>
    have answered : Answered Call.ping.effect Call.ping.found w
        (.failure (.storage (.noDatabase .file))) w := ⟨.failed rfl _, fun e he => nomatch he⟩
    exact ⟨now, .usual (fun astray => astray.2.1) answered, same rfl⟩
  | save =>
    have written := (always_writeNowhere config.path w).weaken fun _ => Quiet.unwritten
    refine always_locked (written.mono ?_)
    rintro _ w' - ⟨rfl, quiet⟩
    have effect : Call.save.effect w.contents = .ok w'.contents := by
      rw [quiet.contents]
      rfl
    exact ⟨.astray ⟨impossible, trivial, w.contents, rfl⟩ effect,
      fun _ he => Except.ok.inj (effect.symm.trans he)⟩

/-- **Every call is answered as its effect is, unless it goes astray**, and the file follows at
every moment of it. -/
theorem always_serveAt (config : Config) (call : Call) (w : World Rough) :
    Always (within (Rough.may config.path)) (Follows config.path call.effect w)
      (fun outcome w' => Returned (config.LeadsAstray call w.contents) call.effect call.found w
        outcome w')
      (serveAt config call) w := by
  unfold serveAt
  split
  next possible =>
    refine (always_serve config call w).mono fun outcome w' _ h => .usual (fun astray => ?_) h.1
    cases possible.symm.trans astray.1
  next impossible =>
    have served := always_serveNowhere (Bool.eq_false_iff.2 impossible) call w
    exact (served.mono fun _ _ _ h => h.1).weaken fun _ => Unwritten.follows

end Telemetry.Store.File
