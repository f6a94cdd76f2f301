import Telemetry.Proofs.Collector.Saving

/-!
# Savers on a virtual clock

A trial plays a saver on a virtual clock, on which a save takes no time and all saves end alike
until that is changed.  What it plays are moves of a scene (`exists_moves_of_advance`,
`shows_start`), and its stop is that of the scene (`shows_stop`), so that all that holds of scenes
holds of trials.
-/

namespace Telemetry.Collector

open Dialogue

/-- A saver that has been stopped has no loop, or a broken one. -/
theorem Scene.stop_not_waiting (s : Scene) (last : Attempt) :
    (s.stop last).2.saver.loop ≠ .waiting := by
  intro waiting
  rcases s.saver.loop.broken_or_unbroken with ⟨e, broken⟩ | unbroken
  · rw [Scene.stop, Saver.stop_of_broken broken] at waiting
    cases broken.symm.trans waiting
  · rw [Scene.stop, Saver.stop_of_unbroken unbroken, run_bind] at waiting
    cases waiting

namespace SaverTrial

variable {t : SaverTrial} {s : Scene}

/-- A save on the virtual clock. -/
def attempt (t : SaverTrial) : Attempt := ⟨0, t.outcome⟩

/-- A trial shows what a scene shows, but for the saver itself and its wait. -/
structure Records (t : SaverTrial) (s : Scene) : Prop where
  clock : t.clock = s.clock
  saves : t.saves = s.saves.map Save.begun
  entries : t.entries = s.entries

/-- A trial shows a scene.  The wait of a new loop begins when time passes. -/
structure Shows (t : SaverTrial) (s : Scene) : Prop where
  saver : t.saver = s.saver
  records : t.Records s
  wait : s.saver.loop = .waiting → 0 < s.saver.interval ∧ s.clock ≤ s.due ∧
    (t.wake = some s.due ∨ t.wake = none ∧ s.since = s.clock)

/-- What a saver does in a trial, it does in the scene, with the same result. -/
theorem records_run {α : Type} (d : Saver.Doing α) (records : t.Records s) :
    (run answer d t).1 = (run (Scene.answer t.attempt) d s).1 ∧
    (run answer d t).2.Records (run (Scene.answer t.attempt) d s).2 ∧
    (run answer d t).2.outcome = t.outcome ∧ (run answer d t).2.wake = t.wake ∧
    (run (Scene.answer t.attempt) d s).2.since = s.since ∧
    (run (Scene.answer t.attempt) d s).2.clock = s.clock := by
  induction d generalizing t s with
  | done a => exact ⟨rfl, records, rfl, rfl, rfl, rfl⟩
  | ask question next ih =>
    obtain ⟨clock, saves, entries⟩ := records
    cases question with
    | save =>
      have recorded : ((answer .save t).2).Records ((Scene.answer t.attempt .save s).2) :=
        ⟨clock, by simp [answer, Scene.answer, saves, clock], entries⟩
      exact ih _ recorded
    | note entry =>
      have recorded : ((answer (.note entry) t).2).Records
          ((Scene.answer t.attempt (.note entry) s).2) :=
        ⟨clock, saves, by simp [answer, Scene.answer, entries]⟩
      exact ih _ recorded

/-- **A start of a trial is one of the scene.** -/
theorem shows_start (shows : t.Shows s) : t.start.Shows s.start := by
  obtain ⟨saver, outcome, clock, wake, early, saves, entries⟩ := t
  obtain ⟨rfl, ⟨rfl, rfl, rfl⟩, waiting⟩ := shows
  cases running : s.saver.running with
  | true =>
    have same (t : SaverTrial) (h : t.saver.running = true) : t.start = t := by
      unfold start Saver.start
      rw [if_pos h, if_pos h]
      rfl
    rw [same _ running, Scene.start_of_running running]
    exact ⟨rfl, ⟨rfl, rfl, rfl⟩, waiting⟩
  | false =>
    have idle : ¬ s.saver.running = true := by rw [running]; nofun
    have timed (h : (if 0 < s.saver.interval then Loop.waiting else s.saver.loop) = .waiting) :
        0 < s.saver.interval := by
      refine Decidable.byContradiction fun untimed => untimed (waiting ?_).1
      rw [if_neg untimed] at h
      exact h
    simp only [start, Scene.start, Saver.start, if_neg idle]
    exact ⟨rfl, ⟨rfl, rfl, rfl⟩, fun h => ⟨timed h, Nat.le_add_right _ _, .inr ⟨rfl, rfl⟩⟩⟩

/-- **The stop of a trial is that of the scene.** -/
theorem shows_stop (shows : t.Shows s) :
    t.stop.1 = (s.stop t.attempt).1 ∧ t.stop.2.Shows (s.stop t.attempt).2 := by
  obtain ⟨saver, records, -⟩ := shows
  have ended := s.stop_not_waiting t.attempt
  obtain ⟨result, records, -⟩ := records_run s.saver.stop records
  unfold stop Scene.stop at *
  rw [saver]
  exact ⟨congrArg (·.1) result, congrArg (·.2) result,
    ⟨records.clock, records.saves, records.entries⟩, fun waiting => absurd waiting ended⟩

/-- The trial after a save. -/
def saved (t : SaverTrial) : SaverTrial :=
  let (saver, t) := run answer t.saver.tick t
  { t with saver }.await

/-- **A save on the virtual clock is one of the scene**, and takes no time. -/
theorem shows_saved (saver : t.saver = s.saver) (records : t.Records s)
    (timed : 0 < s.saver.interval) :
    t.saved.Shows (s.tick t.attempt) ∧ t.saved.outcome = t.outcome ∧ t.saved.clock = s.clock ∧
      t.saved.wake = some (s.clock + s.period) ∧
      (s.tick t.attempt).due = s.clock + s.period := by
  obtain ⟨result, records, outcome, -, -, clock⟩ := records_run s.saver.tick records
  obtain ⟨entries, ticked⟩ := s.tick_eq t.attempt
  have interval : (run answer s.saver.tick t).1.interval = s.saver.interval := by
    rw [result]
    exact congrArg (fun s : Scene => s.saver.interval) ticked
  have wake : t.saved.wake = some (s.clock + s.period) := by
    unfold saved
    rw [saver]
    show some ((run answer s.saver.tick t).2.clock
      + ((run answer s.saver.tick t).1.interval * 1000).toNat) = _
    rw [records.clock, clock, interval]
    rfl
  have due : (s.tick t.attempt).due = s.clock + s.period := by
    rw [ticked]
    rfl
  refine ⟨?_, ?_, ?_, wake, due⟩
  · constructor
    · unfold saved
      rw [saver]
      exact result
    · unfold saved
      rw [saver]
      exact ⟨records.clock, records.saves, records.entries⟩
    · intro _
      rw [due, wake]
      refine ⟨by rw [ticked]; exact timed, ?_, .inl rfl⟩
      rw [ticked]
      exact Nat.le_add_right _ _
  · unfold saved
    rw [saver]
    exact outcome
  · unfold saved
    rw [saver]
    exact records.clock.trans clock

/-- Time goes by until a moment. -/
theorem shows_pass (shows : t.Shows s) {moment : Nat} (later : t.clock ≤ moment)
    (patient : s.saver.loop = .waiting → t.wake = some s.due ∧ moment ≤ s.due) :
    s.Enabled (.pass (moment - s.clock)) ∧
      { t with clock := moment }.Shows (s.next (.pass (moment - s.clock))) := by
  obtain ⟨saver, ⟨clock, saves, entries⟩, wait⟩ := shows
  have reached : s.clock + (moment - s.clock) = moment := by omega
  refine ⟨fun waiting => ?_, saver, ⟨reached.symm, saves, entries⟩, fun waiting => ?_⟩
  · exact Nat.le_trans (Nat.le_of_eq reached) (patient waiting).2
  · obtain ⟨wake, limit⟩ := patient waiting
    exact ⟨(wait waiting).1, Nat.le_trans (Nat.le_of_eq reached) limit, .inl wake⟩

/-- What is due is the save for which the loop waits. -/
theorem waiting_of_due? {moment wake : Nat} (due : t.due? moment = some wake) :
    t.saver.loop = .waiting ∧ t.wake = some wake ∧ wake ≤ moment := by
  unfold due? at due
  split at due
  next waiting =>
    obtain ⟨given, now⟩ := Option.filter_eq_some_iff.1 due
    refine ⟨waiting, given, ?_⟩
    rcases Bool.or_eq_true_iff.1 now with before | now
    · exact Nat.le_of_lt (of_decide_eq_true before)
    · exact Nat.le_of_eq (of_decide_eq_true (Bool.and_eq_true_iff.1 now).1)
  next => cases due

/-- A loop that waits and has nothing due waits at least until the moment. -/
theorem le_of_not_due? {moment wake : Nat} (waiting : t.saver.loop = .waiting)
    (given : t.wake = some wake) (idle : t.due? moment = none) : moment ≤ wake := by
  unfold due? at idle
  rw [waiting, given] at idle
  refine Nat.le_of_not_lt fun before => ?_
  simp [Option.filter_some, before] at idle

/-- **What a trial plays up to a moment are moves of the scene**, if it has fuel for the saves in
between. -/
theorem exists_moves_of_playUntil {moment fuel : Nat} (shows : t.Shows s)
    (uncancelled : t.outcome ≠ .cancelled) (later : t.clock ≤ moment)
    (wakes : s.saver.loop = .waiting → t.wake = some s.due ∧ moment < s.due + fuel) :
    ∃ moves, s.Legal moves ∧ (t.playUntil moment fuel).Shows (s.after moves) := by
  induction fuel generalizing t s with
  | zero =>
    obtain ⟨enabled, shows⟩ := shows_pass shows later fun waiting =>
      ⟨(wakes waiting).1, Nat.le_of_lt (wakes waiting).2⟩
    exact ⟨[_], ⟨enabled, trivial⟩, shows⟩
  | succ fuel ih =>
    rw [playUntil]
    cases due : t.due? moment with
    | none =>
      obtain ⟨enabled, shows⟩ := shows_pass shows later fun waiting =>
        ⟨(wakes waiting).1, le_of_not_due? (shows.saver ▸ waiting) (wakes waiting).1 due⟩
      exact ⟨[_], ⟨enabled, trivial⟩, shows⟩
    | some wake =>
      obtain ⟨waits, given, before⟩ := waiting_of_due? due
      have waiting : s.saver.loop = .waiting := shows.saver ▸ waits
      obtain ⟨timed, patient, -⟩ := shows.wait waiting
      obtain ⟨wake', fuelled⟩ := wakes waiting
      cases Option.some.inj (given.symm.trans wake')
      have soon : t.clock ≤ s.due := shows.records.clock ▸ patient
      obtain ⟨enabled, paused⟩ := shows_pass shows soon fun _ => ⟨given, Nat.le_refl _⟩
      obtain ⟨ticked, outcome, clock, wake, due'⟩ := shows_saved paused.saver paused.records timed
      have now : s.clock + (s.due - s.clock) = s.due := by omega
      have positive : 0 < s.period := by
        unfold Scene.period
        omega
      obtain ⟨moves, legal, played⟩ := ih ticked (outcome.symm ▸ uncancelled)
        (by rw [clock]; exact Nat.le_trans (Nat.le_of_eq now) before)
        fun _ => by
          rw [wake, due']
          refine ⟨rfl, ?_⟩
          show moment < s.clock + (s.due - s.clock) + s.period + fuel
          omega
      exact ⟨.pass _ :: .save t.attempt :: moves, ⟨enabled, ⟨⟨waiting, now⟩, uncancelled⟩, legal⟩,
        played⟩

/-- The wait of a loop begins before time passes. -/
theorem shows_awaiting (shows : t.Shows s) :
    ∃ t', (if t.wake.isNone then t.await else { t with early := true }) = t' ∧ t'.Shows s ∧
      t'.outcome = t.outcome ∧ (s.saver.loop = .waiting → t'.wake = some s.due) := by
  obtain ⟨saver, records, wait⟩ := shows
  refine ⟨_, rfl, ?_⟩
  by_cases new : t.wake.isNone = true
  · rw [if_pos new]
    have wake : s.saver.loop = .waiting → t.await.wake = some s.due := by
      intro waiting
      obtain ⟨-, -, wake | ⟨-, since⟩⟩ := wait waiting
      · rw [wake] at new
        cases new
      · rw [await, Scene.due, since, records.clock, period, saver]
        rfl
    refine ⟨⟨saver, ⟨records.clock, records.saves, records.entries⟩, fun waiting => ?_⟩, rfl, wake⟩
    obtain ⟨timed, patient, -⟩ := wait waiting
    exact ⟨timed, patient, .inl (wake waiting)⟩
  · rw [if_neg new]
    have wake : s.saver.loop = .waiting → t.wake = some s.due := by
      intro waiting
      obtain ⟨-, -, wake | ⟨absent, -⟩⟩ := wait waiting
      · exact wake
      · rw [absent] at new
        exact absurd rfl new
    exact ⟨⟨saver, ⟨records.clock, records.saves, records.entries⟩, wait⟩, rfl, wake⟩

/-- **What a trial plays are moves of the scene.** -/
theorem exists_moves_of_advance (shows : t.Shows s) (uncancelled : t.outcome ≠ .cancelled)
    (span : Nat) : ∃ moves, s.Legal moves ∧ (t.advance span).Shows (s.after moves) := by
  obtain ⟨t', begun, shows', outcome, wake⟩ := shows_awaiting shows
  rw [advance, begun]
  refine exists_moves_of_playUntil shows' (outcome.symm ▸ uncancelled) (Nat.le_add_right _ _) ?_
  intro waiting
  obtain ⟨-, patient, -⟩ := shows.wait waiting
  have same := shows'.records.clock
  exact ⟨wake waiting, by omega⟩

end SaverTrial
end Telemetry.Collector
