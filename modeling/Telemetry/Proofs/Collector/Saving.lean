import Telemetry.Collector.Persistence

/-!
# Savers in time

A scene is a saver in time: its loop waits, its saves take a while, and in between it may be started
again, which changes nothing.  It is stopped while the loop waits or while it saves; a save that is
interrupted so ends somehow, most likely cancelled, and then the saver saves once more.

As long as saves fail because of storage only, the loop saves after every interval, and the last
save is made (`keepsSaving_iff`).  Any other failure of one of its saves ends the loop for good, and
its next stop fails with that failure before the last save.
-/

namespace Telemetry.Collector

open Dialogue
open Store (Error)

/-- A save that is tried takes some milliseconds and has an outcome. -/
structure Attempt where
  duration : Nat
  outcome : Outcome Error Unit
  deriving DecidableEq

/-- A failure that a saver does not expect. -/
def Attempt.Fails (a : Attempt) (e : Error) : Prop :=
  a.outcome = .failure e ∧ Saver.isStorage e = false

/-- A save with the time at which it was begun. -/
structure Save where
  begun : Nat
  attempt : Attempt

/-- A saver in time. -/
structure Scene where
  saver : Saver
  /-- The time in milliseconds. -/
  clock : Nat
  /-- When the wait of the loop began. -/
  since : Nat
  saves : List Save := []
  entries : List Log.Entry := []

namespace Scene

/-! ### What can happen -/

/-- Milliseconds from the end of a save to the next one. -/
def period (s : Scene) : Nat := (s.saver.interval * 1000).toNat

/-- When the wait of the loop ends. -/
def due (s : Scene) : Nat := s.since + s.period

/-- Answer what a saver asks, where a save goes as is said. -/
def answer (a : Attempt) : (question : Saving) → Scene → question.Answer × Scene
  | .save, s =>
      (a.outcome, { s with clock := s.clock + a.duration, saves := s.saves ++ [⟨s.clock, a⟩] })
  | .note entry, s => ((), { s with entries := s.entries ++ [entry] })

/-- What can happen next to a saver. -/
inductive Move
  /-- Some milliseconds go by. -/
  | pass (span : Nat)
  | start
  /-- The loop saves. -/
  | save (attempt : Attempt)
  deriving DecidableEq

def start (s : Scene) : Scene :=
  let (saver, t) := run (answer ⟨0, .cancelled⟩) s.saver.start s
  { t with saver, since := if s.saver.running then s.since else s.clock }

/-- The loop saves, and its next wait begins. -/
def tick (s : Scene) (a : Attempt) : Scene :=
  let (saver, t) := run (answer a) s.saver.tick s
  { t with saver, since := t.clock }

def next (s : Scene) : Move → Scene
  | .pass span => { s with clock := s.clock + span }
  | .start => s.start
  | .save a => s.tick a

/-- The loop has waited for as long as it waits. -/
def Due (s : Scene) : Prop := s.saver.loop = .waiting ∧ s.clock = s.due

/-- Whether a move can happen.  No wait is longer than the interval, and only the stop of a saver
cancels a save. -/
def Enabled (s : Scene) : Move → Prop
  | .pass span => s.saver.loop = .waiting → s.clock + span ≤ s.due
  | .start => True
  | .save a => s.Due ∧ a.outcome ≠ .cancelled

/-- Whether moves can happen one after the other. -/
def Legal : Scene → List Move → Prop
  | _, [] => True
  | s, move :: rest => s.Enabled move ∧ Legal (s.next move) rest

/-- The scene after some moves. -/
def after (s : Scene) (moves : List Move) : Scene := moves.foldl next s

/-- A saver that has been started. -/
def opened (saver : Saver) (clock : Nat) : Scene := start ⟨saver, clock, clock, [], []⟩

/-- The scene when the loop has ended, where the saver is told to stop during a save of the loop or
at another time. -/
def halted (s : Scene) : Option Attempt → Scene
  | none => s
  | some a => s.tick a

/-- Whether a saver may be told to stop then. -/
def Stoppable (s : Scene) : Option Attempt → Prop
  | none => True
  | some _ => s.Due

/-- Stop the saver, whose loop has ended. -/
def stop (s : Scene) (last : Attempt) : Outcome Error Unit × Scene :=
  let ((outcome, saver), t) := run (answer last) s.saver.stop s
  (outcome, { t with saver })

end Scene

/-! ### What a saver is for -/

/-- Saves of which each is begun some time after the one before has ended. -/
def schedule (period : Nat) : Nat → List Attempt → List Save
  | _, [] => []
  | since, a :: later => ⟨since + period, a⟩ :: schedule period (since + period + a.duration) later

/-- When the last of these saves has ended. -/
def endOf (period : Nat) : Nat → List Attempt → Nat
  | since, [] => since
  | since, a :: later => endOf period (since + period + a.duration) later

/-- **A saver keeps saving**: it has saved after every interval since it was started, however these
saves ended, and it saves once more when it is stopped. -/
structure KeepsSaving (opened : Nat) (s : Scene) (last : Attempt) : Prop where
  /-- Every save came one interval after the one before, and none is overdue. -/
  regular : 0 < s.saver.interval → ∃ attempts, s.saves = schedule s.period opened attempts ∧
    s.clock ≤ endOf s.period opened attempts + s.period
  without : s.saver.interval ≤ 0 → s.saves = []
  /-- There is one more save after the loop has ended. -/
  final : (s.stop last).2.saves = s.saves ++ [⟨s.clock, last⟩]
  /-- Its failure is not that of the stop, if it failed because of storage. -/
  quiet : ∀ e, last.outcome = .failure e → Saver.isStorage e = true → (s.stop last).1 = .value ()

/-! ### What a saver does -/

namespace Saver

/-- A saver that does not run, and without an interval has no loop. -/
structure Idle (s : Saver) : Prop where
  running : s.running = false
  without : s.interval ≤ 0 → s.loop = .absent

theorem stop_of_broken {s : Saver} {e : Error} (broken : s.loop = .broken e) :
    s.stop = pure (.failure e, { s with running := false }) := by
  obtain ⟨backend, interval, running, loop⟩ := s
  cases broken
  rfl

theorem stop_of_unbroken {s : Saver} (unbroken : ∀ e, s.loop ≠ .broken e) :
    s.stop = finish >>= fun outcome =>
      pure (outcome, { s with running := false, loop := .absent }) := by
  obtain ⟨backend, interval, running, loop⟩ := s
  cases loop with
  | absent => rfl
  | waiting => rfl
  | broken e => exact absurd rfl (unbroken e)

end Saver

theorem Loop.broken_or_unbroken (loop : Loop) :
    (∃ e, loop = .broken e) ∨ ∀ e, loop ≠ .broken e := by
  cases loop with
  | broken e => exact .inl ⟨e, rfl⟩
  | absent => exact .inr fun e h => by cases h
  | waiting => exact .inr fun e h => by cases h

/-- The loop after a save. -/
def Loop.afterSave (loop : Loop) : Outcome Error Unit → Loop
  | .value _ => loop
  | .failure e => if Saver.isStorage e then loop else .broken e
  | .cancelled => .absent

/-- How the last save ends, by what becomes of it. -/
def finished : Outcome Error Unit → Outcome Error Unit
  | .value _ => .value ()
  | .failure e => if Saver.isStorage e then .value () else .failure e
  | .cancelled => .cancelled

namespace Scene

variable {s : Scene}

/-- **Whatever comes of a save of the loop, the next wait begins then**; the loop breaks at a failure
that is not expected. -/
theorem tick_eq (s : Scene) (a : Attempt) : ∃ entries, s.tick a =
    { saver := { s.saver with loop := s.saver.loop.afterSave a.outcome },
      clock := s.clock + a.duration, since := s.clock + a.duration,
      saves := s.saves ++ [⟨s.clock, a⟩], entries } := by
  obtain ⟨duration, outcome⟩ := a
  cases outcome with
  | value => exact ⟨_, rfl⟩
  | cancelled => exact ⟨_, rfl⟩
  | failure e =>
    cases storage : Saver.isStorage e with
    | true =>
      refine ⟨s.entries ++ [Saver.failed "Periodic save failed" e], ?_⟩
      simp only [tick, Saver.tick, Saver.ask, say_bind, run_ask, answer, storage, if_true,
        Loop.afterSave]
      rfl
    | false =>
      refine ⟨s.entries, ?_⟩
      simp only [tick, Saver.tick, Saver.ask, say_bind, run_ask, answer, storage,
        Bool.false_eq_true, if_false, Loop.afterSave]
      rfl

/-- The last save is one save, whatever comes of it. -/
theorem run_finish (s : Scene) (last : Attempt) : ∃ entries,
    run (answer last) Saver.finish s = (finished last.outcome,
      { s with clock := s.clock + last.duration, saves := s.saves ++ [⟨s.clock, last⟩], entries }) := by
  obtain ⟨duration, outcome⟩ := last
  cases outcome with
  | value => exact ⟨_, rfl⟩
  | cancelled => exact ⟨_, rfl⟩
  | failure e =>
    cases storage : Saver.isStorage e with
    | true =>
      refine ⟨s.entries ++ [Saver.failed "Final save failed" e]
        ++ [⟨.info, "Persistence service stopped", []⟩], ?_⟩
      simp only [Saver.finish, Saver.ask, say_bind, run_ask, answer, storage, if_true, finished]
      rfl
    | false =>
      refine ⟨s.entries, ?_⟩
      simp only [Saver.finish, Saver.ask, say_bind, run_ask, answer, storage, Bool.false_eq_true,
        if_false, finished]
      rfl

/-- **A stop saves once more, unless the loop is broken.** -/
theorem stop_of_unbroken (unbroken : ∀ e, s.saver.loop ≠ .broken e) (last : Attempt) :
    (s.stop last).1 = finished last.outcome ∧
      (s.stop last).2.saves = s.saves ++ [⟨s.clock, last⟩] := by
  obtain ⟨entries, ended⟩ := run_finish s last
  rw [stop, Saver.stop_of_unbroken unbroken, run_bind, ended]
  exact ⟨rfl, rfl⟩

/-- **The failure that has broken the loop is that of the stop**, which does not save. -/
theorem stop_of_broken {e : Error} (broken : s.saver.loop = .broken e) (last : Attempt) :
    (s.stop last).1 = .failure e ∧ (s.stop last).2.saves = s.saves := by
  rw [stop, Saver.stop_of_broken broken]
  exact ⟨rfl, rfl⟩

/-- A saver that runs is not started again. -/
theorem start_of_running (running : s.saver.running = true) : s.start = s := by
  unfold start Saver.start
  rw [if_pos running, if_pos running]
  rfl

/-- A saver that is started has a loop if it has an interval. -/
theorem opened_eq {saver : Saver} (idle : saver.Idle) (clock : Nat) : ∃ entries,
    opened saver clock =
      { saver := { saver with
          running := true, loop := if 0 < saver.interval then .waiting else .absent },
        clock, since := clock, entries } := by
  obtain ⟨backend, interval, running, loop⟩ := saver
  obtain ⟨rfl, without⟩ := idle
  refine ⟨[⟨.info, "Persistence service started",
    [("interval", .int interval), ("backend", .string backend.word)]⟩], ?_⟩
  by_cases timed : 0 < interval
  · simp only [opened, start, Saver.start, if_pos timed]
    rfl
  · cases without (Int.not_lt.1 timed)
    simp only [opened, start, Saver.start, if_neg timed]
    rfl

end Scene

/-! ### Runs -/

section

variable {period since : Nat}

theorem schedule_append (attempts : List Attempt) (a : Attempt) :
    schedule period since (attempts ++ [a])
      = schedule period since attempts ++ [⟨endOf period since attempts + period, a⟩] := by
  induction attempts generalizing since with
  | nil => rfl
  | cons b later ih => rw [List.cons_append, schedule, ih]; rfl

theorem endOf_append (attempts : List Attempt) (a : Attempt) :
    endOf period since (attempts ++ [a]) = endOf period since attempts + period + a.duration := by
  induction attempts generalizing since with
  | nil => rfl
  | cons b later ih => rw [List.cons_append, endOf, ih]; rfl

theorem mem_schedule {attempts : List Attempt} {save : Save}
    (h : save ∈ schedule period since attempts) : save.attempt ∈ attempts := by
  induction attempts generalizing since with
  | nil => cases h
  | cons a later ih =>
    rcases List.mem_cons.1 h with rfl | h
    · exact List.mem_cons_self
    · exact List.mem_cons_of_mem _ (ih h)

end

namespace Scene

variable {s : Scene} {opened : Nat} {attempts : List Attempt}

/-- The loop has saved after every interval, and waits again since the last save has ended. -/
structure OnTime (opened : Nat) (attempts : List Attempt) (s : Scene) : Prop where
  saves : s.saves = schedule s.period opened attempts
  since : s.since = endOf s.period opened attempts
  clock : s.clock ≤ s.due

/-- **A save at its time leaves the loop on time**, however it ends. -/
theorem OnTime.tick (onTime : OnTime opened attempts s) (now : s.clock = s.due) (a : Attempt) :
    OnTime opened (attempts ++ [a]) (s.tick a) := by
  obtain ⟨entries, ticked⟩ := s.tick_eq a
  have start : s.clock = endOf s.period opened attempts + s.period := by
    rw [now, due, onTime.since]
  rw [ticked]
  constructor
  · show s.saves ++ [⟨s.clock, a⟩] = schedule s.period opened (attempts ++ [a])
    rw [schedule_append, onTime.saves, start]
  · show s.clock + a.duration = endOf s.period opened (attempts ++ [a])
    rw [endOf_append, start]
  · exact Nat.le_add_right _ _

/-- Only the last save of the loop has failed unexpectedly, and the loop ended with that. -/
structure Broken (s : Scene) (e : Error) : Prop where
  loop : s.saver.loop = .broken e
  failed : ∃ before save, s.saves = before ++ [save] ∧ save.attempt.Fails e ∧
    ∀ b ∈ before, ∀ e, ¬ b.attempt.Fails e

/-- The loop after a save that did not fail unexpectedly is the one before, unless the save has been
cancelled. -/
theorem afterSave_of_expected {loop : Loop} {a : Attempt} (expected : ∀ e, ¬ a.Fails e) :
    loop.afterSave a.outcome = loop ∨
      loop.afterSave a.outcome = .absent ∧ a.outcome = .cancelled := by
  cases outcome : a.outcome with
  | value => exact .inl rfl
  | cancelled => exact .inr ⟨rfl, rfl⟩
  | failure e =>
    cases storage : Saver.isStorage e with
    | true => exact .inl (by rw [Loop.afterSave, storage, if_pos rfl])
    | false => exact absurd ⟨outcome, storage⟩ (expected e)

/-- A loop that is on time and has met with nothing unexpected. -/
structure Calm (opened : Nat) (attempts : List Attempt) (s : Scene) : Prop where
  timed : 0 < s.saver.interval
  onTime : OnTime opened attempts s
  expected : ∀ a ∈ attempts, ∀ e, ¬ a.Fails e

/-- **A save at its time leaves the loop calm or breaks it.** -/
theorem Calm.tick (calm : Calm opened attempts s) (due : s.Due) (a : Attempt) :
    (∃ e, (s.tick a).Broken e) ∨
      Calm opened (attempts ++ [a]) (s.tick a) ∧
        ((s.tick a).saver.loop = .waiting ∨
          (s.tick a).saver.loop = .absent ∧ a.outcome = .cancelled) := by
  obtain ⟨timed, onTime, before⟩ := calm
  obtain ⟨loop, now⟩ := due
  obtain ⟨entries, ticked⟩ := s.tick_eq a
  by_cases fails : ∃ e, a.Fails e
  · left
    obtain ⟨e, fails⟩ := fails
    refine ⟨e, ?_⟩
    rw [ticked]
    refine ⟨?_, s.saves, ⟨s.clock, a⟩, rfl, fails, ?_⟩
    · show s.saver.loop.afterSave a.outcome = _
      rw [fails.1, Loop.afterSave, fails.2]
      rfl
    · intro save hs
      rw [onTime.saves] at hs
      exact before _ (mem_schedule hs)
  · right
    have expected : ∀ e, ¬ a.Fails e := not_exists.1 fails
    refine ⟨⟨?_, onTime.tick now a, ?_⟩, ?_⟩
    · rw [ticked]
      exact timed
    · intro b hb
      rcases List.mem_append.1 hb with hb | hb
      · exact before b hb
      · cases List.mem_singleton.1 hb
        exact expected
    · rw [ticked]
      dsimp only
      rw [← loop]
      exact afterSave_of_expected expected

/-- How a saver stands that runs. -/
inductive Standing (opened : Nat) (s : Scene) : Prop
  | loopless (untimed : s.saver.interval ≤ 0) (loop : s.saver.loop = .absent) (saves : s.saves = [])
  | waiting (loop : s.saver.loop = .waiting) (attempts : List Attempt)
      (calm : Calm opened attempts s)
  | broken (e : Error) (broken : s.Broken e)

/-- A saver that runs, and how it stands. -/
structure Runs (opened : Nat) (s : Scene) : Prop where
  running : s.saver.running = true
  standing : Standing opened s

theorem runs_opened {saver : Saver} (idle : saver.Idle) (clock : Nat) :
    Runs clock (Scene.opened saver clock) := by
  obtain ⟨entries, start⟩ := opened_eq idle clock
  rw [start]
  refine ⟨rfl, ?_⟩
  by_cases timed : 0 < saver.interval
  · exact .waiting (if_pos timed) [] ⟨timed, ⟨rfl, rfl, Nat.le_add_right _ _⟩, nofun⟩
  · exact .loopless (Int.not_lt.1 timed) (if_neg timed) rfl

/-- Only a loop that is calm has a save to make. -/
theorem Standing.calm (standing : Standing opened s) (due : s.Due) :
    ∃ attempts, Calm opened attempts s := by
  cases standing with
  | loopless untimed absent => cases due.1.symm.trans absent
  | broken e broken => cases due.1.symm.trans broken.loop
  | waiting _ attempts calm => exact ⟨attempts, calm⟩

/-- **Each move keeps a saver on time, or its loop breaks.** -/
theorem Runs.next (runs : Runs opened s) {move : Move} (enabled : s.Enabled move) :
    Runs opened (s.next move) := by
  obtain ⟨running, standing⟩ := runs
  cases move with
  | start =>
    show Runs opened s.start
    rw [start_of_running running]
    exact ⟨running, standing⟩
  | pass span =>
    refine ⟨running, ?_⟩
    cases standing with
    | loopless untimed loop saves => exact .loopless untimed loop saves
    | waiting loop attempts calm =>
      obtain ⟨timed, onTime, expected⟩ := calm
      exact .waiting loop attempts ⟨timed, ⟨onTime.saves, onTime.since, enabled loop⟩, expected⟩
    | broken e broken => exact .broken e ⟨broken.loop, broken.failed⟩
  | save a =>
    obtain ⟨due, uncancelled⟩ := enabled
    obtain ⟨attempts, calm⟩ := standing.calm due
    constructor
    · obtain ⟨entries, ticked⟩ := s.tick_eq a
      show (s.tick a).saver.running = true
      rw [ticked]
      exact running
    · obtain ⟨e, broken⟩ | ⟨calm, waits | ⟨-, cancelled⟩⟩ := calm.tick due a
      · exact .broken e broken
      · exact .waiting waits _ calm
      · exact absurd cancelled uncancelled

/-- Whatever happens to a saver while it runs, its loop is on time or broken. -/
theorem Runs.after (runs : Runs opened s) {moves : List Move} (legal : s.Legal moves) :
    Runs opened (s.after moves) := by
  induction moves generalizing s with
  | nil => exact runs
  | cons move rest ih =>
    obtain ⟨enabled, legal⟩ := legal
    exact ih (runs.next enabled) legal

/-! ### The end of a run -/

/-- How a saver stands when its loop has ended. -/
inductive Halt (opened : Nat) (s : Scene) : Prop
  | loopless (untimed : s.saver.interval ≤ 0) (loop : s.saver.loop = .absent) (saves : s.saves = [])
  | calm (attempts : List Attempt) (calm : Calm opened attempts s)
      (unbroken : ∀ e, s.saver.loop ≠ .broken e)
  | broken (e : Error) (broken : s.Broken e)

/-- A loop ends where it stands, or with the save that is interrupted. -/
theorem Runs.halt (runs : Runs opened s) {interrupted : Option Attempt}
    (stoppable : s.Stoppable interrupted) : Halt opened (s.halted interrupted) := by
  cases interrupted with
  | none =>
    show Halt opened s
    cases runs.standing with
    | loopless untimed loop saves => exact .loopless untimed loop saves
    | waiting loop attempts calm => exact .calm attempts calm fun e => by rw [loop]; nofun
    | broken e broken => exact .broken e broken
  | some a =>
    obtain ⟨attempts, calm⟩ := runs.standing.calm stoppable
    obtain ⟨e, broken⟩ | ⟨calm, waits | ⟨absent, -⟩⟩ := calm.tick stoppable a
    · exact .broken e broken
    · exact .calm _ calm fun e => by rw [halted, waits]; nofun
    · exact .calm _ calm fun e => by rw [halted, absent]; nofun

/-- The spec of a stop, for a loop that is not broken. -/
theorem stop_keeps (unbroken : ∀ e, s.saver.loop ≠ .broken e) (last : Attempt) :
    (s.stop last).2.saves = s.saves ++ [⟨s.clock, last⟩] ∧
      ∀ e, last.outcome = .failure e → Saver.isStorage e = true → (s.stop last).1 = .value () := by
  obtain ⟨outcome, saves⟩ := stop_of_unbroken unbroken last
  refine ⟨saves, fun e failed storage => ?_⟩
  rw [outcome, failed, finished, storage, if_pos rfl]

theorem Halt.keepsSaving (halt : Halt opened s) (last : Attempt)
    (expected : ∀ save ∈ s.saves, ∀ e, ¬ save.attempt.Fails e) : KeepsSaving opened s last := by
  cases halt with
  | loopless untimed loop saves =>
    obtain ⟨final, quiet⟩ := stop_keeps (fun e => by rw [loop]; nofun) last
    exact ⟨fun timed => absurd timed (Int.not_lt.2 untimed), fun _ => saves, final, quiet⟩
  | calm attempts calm unbroken =>
    obtain ⟨final, quiet⟩ := stop_keeps unbroken last
    obtain ⟨timed, onTime, -⟩ := calm
    refine ⟨fun _ => ⟨attempts, onTime.saves, ?_⟩, fun untimed => ?_, final, quiet⟩
    · exact onTime.since ▸ onTime.clock
    · exact absurd timed (Int.not_lt.2 untimed)
  | broken e broken =>
    obtain ⟨before, save, saves, fails, -⟩ := broken.failed
    have mem : save ∈ s.saves := saves ▸ List.mem_append_right _ (List.mem_singleton.2 rfl)
    exact absurd fails (expected save mem e)

/-- A save that has failed unexpectedly is the last one of a broken loop. -/
theorem Halt.broken_of_fails (halt : Halt opened s) {save : Save} (hs : save ∈ s.saves) {e : Error}
    (fails : save.attempt.Fails e) : s.saver.loop = .broken e := by
  cases halt with
  | loopless untimed loop saves =>
    rw [saves] at hs
    cases hs
  | calm attempts calm unbroken =>
    rw [calm.onTime.saves] at hs
    exact absurd fails (calm.expected _ (mem_schedule hs) e)
  | broken e' broken =>
    obtain ⟨before, last, saves, failed, expected⟩ := broken.failed
    rw [saves] at hs
    rcases List.mem_append.1 hs with hs | hs
    · exact absurd fails (expected save hs e)
    · cases List.mem_singleton.1 hs
      cases failed.1.symm.trans fails.1
      exact broken.loop

/-- **A saver keeps saving exactly if no save of its loop has failed unexpectedly.** -/
theorem Halt.keepsSaving_iff_expected (halt : Halt opened s) (last : Attempt) :
    KeepsSaving opened s last ↔ ∀ save ∈ s.saves, ∀ e, ¬ save.attempt.Fails e := by
  refine ⟨fun keeps save hs e fails => ?_, halt.keepsSaving last⟩
  have unsaved := (stop_of_broken (halt.broken_of_fails hs fails) last).2
  rw [keeps.final] at unsaved
  exact absurd unsaved (by simp)

end Scene

/-! ### Every run -/

/-- **A saver keeps saving exactly if no save of its loop fails unexpectedly**, whenever it is
stopped and however often it is started; such a failure is then that of the stop, which does not save.
-/
theorem keepsSaving_iff {saver : Saver} (idle : saver.Idle) (clock : Nat) {moves : List Scene.Move}
    (legal : (Scene.opened saver clock).Legal moves) {interrupted : Option Attempt}
    (stoppable : ((Scene.opened saver clock).after moves).Stoppable interrupted)
    (last : Attempt) :
    let scene := (Scene.opened saver clock).after moves
    let halted := scene.halted interrupted
    (KeepsSaving clock halted last ↔ ∀ save ∈ halted.saves, ∀ e, ¬ save.attempt.Fails e) ∧
    (∀ save ∈ halted.saves, ∀ e, save.attempt.Fails e →
      (halted.stop last).1 = .failure e ∧ (halted.stop last).2.saves = halted.saves) ∧
    scene.start = scene := by
  intro scene halted
  have runs : scene.Runs clock := (Scene.runs_opened idle clock).after legal
  have halt : halted.Halt clock := runs.halt stoppable
  refine ⟨halt.keepsSaving_iff_expected last, fun save hs e fails => ?_,
    Scene.start_of_running runs.running⟩
  exact Scene.stop_of_broken (halt.broken_of_fails hs fails) last

/-- A save of the loop that fails because of storage, a second start, and a stop during the save after
that. -/
theorem keepsSaving_of_fullDisk :
    let saver : Saver := { backend := .memory, interval := 1 }
    let full : Outcome Error Unit := .failure (.unexpected (.mishap .storage "disk full"))
    let moves := [.pass 1000, .save ⟨200, full⟩, .start, .pass 1000]
    let scene := (Scene.opened saver 0).after moves
    saver.Idle ∧ (Scene.opened saver 0).Legal moves ∧ scene.Stoppable (some ⟨50, .cancelled⟩) ∧
      KeepsSaving 0 (scene.halted (some ⟨50, .cancelled⟩)) ⟨0, full⟩ ∧ scene.start = scene := by
  intro saver full moves scene
  have idle : saver.Idle := ⟨rfl, fun untimed => absurd untimed (by decide)⟩
  have legal : (Scene.opened saver 0).Legal moves :=
    ⟨fun _ => by decide, ⟨⟨rfl, rfl⟩, nofun⟩, trivial, fun _ => by decide, trivial⟩
  have stoppable : scene.Stoppable (some ⟨50, .cancelled⟩) := ⟨rfl, rfl⟩
  have saves : (scene.halted (some ⟨50, .cancelled⟩)).saves
      = [⟨1000, ⟨200, full⟩⟩, ⟨2200, ⟨50, .cancelled⟩⟩] := rfl
  obtain ⟨keeps, -, unchanged⟩ := keepsSaving_iff idle 0 legal stoppable ⟨0, full⟩
  refine ⟨idle, legal, stoppable, keeps.2 ?_, unchanged⟩
  rw [saves]
  intro save hs e fails
  rcases List.mem_cons.1 hs with rfl | hs
  · cases fails.1
    cases fails.2
  · cases List.mem_singleton.1 hs
    cases fails.1

/-- **A save of the loop fails, and not because of storage**: the loop ends, the stop fails with that
failure, and there is no last save. -/
theorem not_keepsSaving_of_runtimeFailure :
    let saver : Saver := { backend := .memory, interval := 1 }
    let fails : Error := .unexpected (.mishap .runtime "disk full")
    let moves := [.pass 1000, .save ⟨0, .failure fails⟩, .pass 2500]
    let scene := (Scene.opened saver 0).after moves
    saver.Idle ∧ (Scene.opened saver 0).Legal moves ∧ scene.Stoppable none ∧
      (scene.halted none).clock = 3500 ∧ (scene.halted none).saves = [⟨1000, ⟨0, .failure fails⟩⟩] ∧
      ((scene.halted none).stop ⟨0, .value ()⟩).1 = .failure fails ∧
      ((scene.halted none).stop ⟨0, .value ()⟩).2.saves = [⟨1000, ⟨0, .failure fails⟩⟩] ∧
      ¬ KeepsSaving 0 (scene.halted none) ⟨0, .value ()⟩ := by
  intro saver fails moves scene
  have idle : saver.Idle := ⟨rfl, fun untimed => absurd untimed (by decide)⟩
  have legal : (Scene.opened saver 0).Legal moves :=
    ⟨fun _ => by decide, ⟨⟨rfl, rfl⟩, nofun⟩, nofun, trivial⟩
  refine ⟨idle, legal, trivial, rfl, rfl, rfl, rfl, fun keeps => ?_⟩
  have once : ((scene.halted none).stop ⟨0, .value ()⟩).2.saves.length = 1 := rfl
  rw [keeps.final] at once
  cases once

end Telemetry.Collector
