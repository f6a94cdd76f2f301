import Telemetry.Proofs.Store.Brittle
import Telemetry.Proofs.Store.Relational.Rollback
import Telemetry.Proofs.Store.Relational.WriteThrough

/-!
# Changes that are broken off

On a brittle connection statements and commits may be refused, and whoever waits for them may be
cancelled.  A cancellation is no failure of the database: nothing is rolled back, and the contents
stay as they were (`always_change`).  So a change that is broken off leaves the connection as it was,
or its statement pending, or its statement committed (`Left`).

Only the first of these keeps contents and database together.  A committed statement parts them at
once, and a pending one is made lasting by the next change of another metric
(`keepsTogether_iff`).
-/

namespace Telemetry.Store.Relational

open Dialogue
open Unruly (Writes)

namespace Interrupted

/-! ### Brittle connections -/

/-- Drop what is pending.  The wait for it may be cancelled, but it is not refused. -/
def rollback (m : Brittle Connection Refusal) : Outcome Failure Unit × Brittle Connection Refusal :=
  match m.script with
  | some (.cancelled true) :: script => (.cancelled, { state := m.state.rollback, script })
  | some (.cancelled false) :: script => (.cancelled, { m with script })
  | _ => (.value (), { state := m.state.rollback, script := m.script.tail })

def pause (m : Brittle Connection Refusal) : Bool × Brittle Connection Refusal :=
  match m.script with
  | some (.cancelled _) :: script => (false, { m with script })
  | _ => (true, { m with script := m.script.tail })

def perform : (s : Step) → Brittle Connection Refusal → s.Answer × Brittle Connection Refusal
  | .execute statement, m => m.attempt Refusal.failure fun k => k.execute statement
  | .commit, m => m.attempt Refusal.failure fun k => .ok k.commit
  | .rollback, m => rollback m
  | .pause _, m => pause m
  | s, m => ((Faulty.perform s { connection := m.state }).1, m)

/-- What may come of a rollback. -/
inductive Dropped (k : Connection) : Outcome Failure Unit → Connection → Prop
  | done : Dropped k (.value ()) k.rollback
  | cancelled : Dropped k .cancelled k
  | carriedOut : Dropped k .cancelled k.rollback

/-- What may come of a step on a brittle connection. -/
def may : (s : Step) → World (Brittle Connection Refusal) → s.Answer →
    Brittle Connection Refusal → Prop
  | .execute statement, w, answer, m =>
      Tried Refusal.failure (fun k => k.execute statement) w.medium.state answer m.state
  | .commit, w, answer, m =>
      Tried Refusal.failure (fun k => .ok k.commit) w.medium.state answer m.state
  | .rollback, w, answer, m => Dropped w.medium.state answer m.state
  | .note _, w, _, m => m = w.medium
  | _, w, _, m => m.state = w.medium.state

theorem may_perform (w : World (Brittle Connection Refusal)) (s : Step) :
    may s w (perform s w.medium).1 (perform s w.medium).2 := by
  cases s with
  | execute => exact tried_attempt _ w.medium _
  | commit => exact tried_attempt _ w.medium _
  | rollback =>
    show Dropped _ (rollback w.medium).1 (rollback w.medium).2.state
    unfold rollback
    split
    · exact .carriedOut
    · exact .cancelled
    · exact .done
  | pause =>
    show (pause w.medium).2.state = _
    unfold pause
    split <;> rfl
  | connect | migrations | gaugeRows | counterRows | probe | note => rfl

variable {w : World (Brittle Connection Refusal)} {c : Contents} {d : Database}
  {statement : Statement}

theorem tries_execute (statement : Statement) :
    Tries may Refusal.failure (fun k => k.execute statement) (take (.execute statement)) :=
  fun _ _ h => always_tried (Step.execute statement) h

theorem tries_commit : Tries may Refusal.failure (fun k => .ok k.commit) (take .commit) :=
  fun _ _ h => always_tried Step.commit h

/-! ### One attempt -/

/-- How far a statement may have come that is broken off. -/
inductive Left (d : Database) (statement : Statement) : Connection → Prop
  | clean : Left d statement ⟨d, none⟩
  | pending {d' : Database} (h : d.execute statement = .ok d') : Left d statement ⟨d, some d'⟩
  | lasting {d' : Database} (h : d.execute statement = .ok d') : Left d statement ⟨d', none⟩

/-- A statement that has been executed is pending. -/
def Pending (d : Database) (statement : Statement) (k : Connection) : Prop :=
  ∃ d', d.execute statement = .ok d' ∧ k = ⟨d, some d'⟩

/-- A statement that has been committed is lasting. -/
def Lasting (d : Database) (statement : Statement) (k : Connection) : Prop :=
  ∃ d', d.execute statement = .ok d' ∧ k = ⟨d', none⟩

theorem Pending.left {k : Connection} (h : Pending d statement k) : Left d statement k := by
  obtain ⟨d', hd, rfl⟩ := h
  exact .pending hd

theorem Lasting.left {k : Connection} (h : Lasting d statement k) : Left d statement k := by
  obtain ⟨d', hd, rfl⟩ := h
  exact .lasting hd

/-- How a failed attempt stands before it is rolled back, if it is. -/
structure Stopped (d : Database) (statement : Statement) (e : Failure) (k : Connection) : Prop where
  left : Left d statement k
  back : k.rollback = ⟨d, none⟩
  /-- Nothing is pending if the failure is not one of the database. -/
  own : e.isDatabase = false → k = ⟨d, none⟩

theorem stopped_clean (d : Database) (statement : Statement) (e : Failure) :
    Stopped d statement e ⟨d, none⟩ :=
  ⟨.clean, rfl, fun _ => rfl⟩

/-- The steps of an attempt on a clean connection. -/
theorem always_execute_commit (opens : Database.Statement.opens statement = true)
    (clean : At c (· = ⟨d, none⟩) w) :
    Always (within may) (fun _ => True)
      (Concludes (fun _ => At c (Lasting d statement)) (fun e => At c (Stopped d statement e))
        (At c (Left d statement)))
      ((take (.execute statement)).andThen fun _ => take .commit) w := by
  have pending (k : Connection) (hk : k = ⟨d, none⟩) (k' : Connection)
      (h : k.execute statement = .ok k') : Pending d statement k' := by
    rw [hk, execute_clean opens] at h
    cases hd : d.execute statement with
    | error e => rw [hd] at h; cases h
    | ok d' => rw [hd] at h; cases h; exact ⟨d', hd, rfl⟩
  have stopped (k : Connection) (hk : k = ⟨d, none⟩) (e : Failure) : Stopped d statement e k :=
    hk ▸ stopped_clean d statement e
  have executed : Always (within may) (fun _ => True)
      (Concludes (fun _ => At c (Pending d statement)) (fun e => At c (Stopped d statement e))
        (At c (Left d statement))) (take (.execute statement)) w :=
    (tries_execute statement).concludes clean pending (fun k hk e _ => stopped k hk e)
      (fun k hk _ => stopped k hk _) (fun k hk => hk ▸ .clean) fun _ => Pending.left
  refine executed.andThen_concludes (fun _ w' _ h => ?_) (fun _ _ h => h) fun _ h => h
  refine tries_commit.concludes h ?done ?failed ?refused (fun _ => Pending.left) fun _ => Lasting.left
  case done =>
    rintro _ ⟨d', hd, rfl⟩ _ ⟨⟩
    exact ⟨d', hd, rfl⟩
  case failed =>
    rintro _ _ _ ⟨⟩
  case refused =>
    rintro _ ⟨d', hd, rfl⟩ r
    exact ⟨.pending hd, rfl, nofun⟩

/-- How an attempt ends: one that fails leaves the connection as it was. -/
def Wrote {ε : Type} (c : Contents) (d : Database) (statement : Statement) :
    Outcome ε Unit → World (Brittle Connection Refusal) → Prop :=
  Concludes (fun _ => At c (Lasting d statement)) (fun _ => At c (· = ⟨d, none⟩))
    (At c (Left d statement))

/-- **An attempt leaves a clean connection clean, unless it is broken off.** -/
theorem always_writeOnce (opens : Database.Statement.opens statement = true)
    (clean : At c (· = ⟨d, none⟩) w) :
    Always (within may) (fun _ => True) (Wrote c d statement) (writeOnce statement) w := by
  refine always_bind.2 ((always_execute_commit opens clean).mono ?_)
  intro outcome w' _ stood
  cases outcome with
  | value => exact ⟨trivial, stood⟩
  | cancelled => exact ⟨trivial, stood⟩
  | failure e =>
    obtain ⟨hcontents, left, back, own⟩ := stood
    dsimp only
    split
    next =>
      refine always_bind.2 (always_tried Step.rollback ?_)
      rintro answer ⟨k, script⟩ (dropped : Dropped w'.medium.state answer k)
      cases dropped with
      | done => exact ⟨trivial, hcontents, back⟩
      | cancelled => exact ⟨trivial, hcontents, left⟩
      | carriedOut => exact ⟨trivial, hcontents, back ▸ .clean⟩
    next h => exact ⟨trivial, hcontents, own (by simpa using h)⟩

/-! ### Changes -/

/-- A pause may be cut short, and leaves the contents and the connection alone. -/
theorem steady_surroundings :
    surroundings.Steady (within may) (fun _ => True) fun w _ w' =>
      w'.contents = w.contents ∧ w'.medium.state = w.medium.state where
  pause d w after _ h :=
    always_tried (Step.pause d) fun through m hm => (h through { w with medium := m } ⟨rfl, hm⟩).2
  note n w after _ h := by
    refine always_tried (Step.note n) ?_
    rintro _ _ rfl
    exact h

theorem always_writeRow {kind : Kind} {name : String}
    (opens : Database.Statement.opens statement = true) (clean : At c (· = ⟨d, none⟩) w) :
    Always (within may) (fun _ => True) (Wrote c d statement) (writeRow kind name statement) w := by
  have tried : Always (within may) (fun _ => True)
      (fun outcome w' => Wrote c d statement
        (outcome.mapFailure (errorOf (.rowNotWritten kind name))) w')
      (tryHard (writeOnce statement)) w := by
    -- A clean connection is what a failed attempt hands to the next.
    refine Retry.always_run_steady steady_surroundings (fun _ h => always_writeOnce opens h)
      (fun _ _ h => h) ?rested ?broken (fun _ _ h => h) (fun _ h => h) (fun _ _ _ h => h)
      (fun _ _ _ _ h => h) clean
    case rested =>
      rintro w₁ through w₂ ⟨hcontents, hstate⟩ ⟨same, same'⟩
      exact ⟨same.trans hcontents, same'.trans hstate⟩
    case broken =>
      rintro w₁ w₂ h -
      exact h.mono fun k hk => hk ▸ .clean
  exact always_bind.2 (tried.mono fun _ _ _ h => ⟨trivial, h⟩)

/-- **A change that is broken off leaves the contents alone**, and its statement undone, pending or
committed. -/
theorem always_change {kind : Kind} {name : String} {f : Contents → Except Error Contents}
    (opens : Database.Statement.opens statement = true) (clean : At c (· = ⟨d, none⟩) w) :
    Always (within may) (fun _ => True)
      (Concludes (fun _ _ => True) (fun _ => At c (· = ⟨d, none⟩)) (At c (Left d statement)))
      (change kind name statement f) w := by
  refine always_locked (always_contents ?_)
  cases f w.contents with
  | error e => exact ⟨trivial, clean⟩
  | ok after =>
    refine (always_writeRow opens clean).andThen_concludes ?_ (fun _ _ h => h) fun _ h => h
    exact fun _ _ _ _ => always_setContents trivial ⟨trivial, trivial⟩

/-! ### Changes that meet no fault -/

/-- What comes of a step is what the connection does. -/
def exactly (s : Step) (w : World Faulty) (answer : s.Answer) (m : Faulty) : Prop :=
  (answer, m) = Faulty.perform s w.medium

theorem always_take_exactly (s : Step) {w : World Faulty} {after : s.Answer → World Faulty → Prop}
    (h : after (Faulty.perform s w.medium).1 { w with medium := (Faulty.perform s w.medium).2 }) :
    Always (within exactly) (fun _ => True) after (take s) w := by
  refine ⟨trivial, ?_⟩
  rintro answer ⟨c, m⟩ ⟨hc, hm⟩
  have hm : (answer, m) = Faulty.perform s w.medium := hm
  cases hc
  rw [← hm] at h
  exact ⟨trivial, h⟩

theorem calm_exactly : surroundings.Calm (within exactly) fun _ => True where
  pause d _ _ _ h := always_take_exactly (.pause d) h
  note n _ _ _ h := always_take_exactly (.note n) h

section

variable {after : Contents} {k : Connection} {d' : Database}

/-- The world after a change that meets no fault. -/
def writtenTo (c : Contents) (d : Database) : World Faulty :=
  ⟨c, { connection := ⟨d, none⟩, tried := 2 }⟩

theorem always_writeOnce_exactly (opens : Database.Statement.opens statement = true)
    (hd : k.current.execute statement = .ok d') :
    Always (within exactly) (fun _ => True) (Ends (fun _ w' => w' = writtenTo c d') fun _ _ => False)
      (writeOnce statement) ⟨c, { connection := k }⟩ := by
  have executed : k.execute statement = .ok ⟨k.committed, some d'⟩ := by
    rw [execute_opens k opens, hd]
    rfl
  have done : Faulty.perform (.execute statement) { connection := k }
      = (.value (), { connection := ⟨k.committed, some d'⟩, tried := 1 }) := by
    simp only [Faulty.perform, Faulty.unlessRefused, executed]
    rfl
  have both : Always (within exactly) (fun _ => True)
      (Ends (fun _ w' => w' = writtenTo c d') fun (_ : Failure) _ => False)
      ((take (.execute statement)).andThen fun _ => take .commit) ⟨c, { connection := k }⟩ := by
    refine always_bind.2 (always_take_exactly (.execute statement) ?_)
    rw [done]
    exact always_take_exactly .commit rfl
  refine always_bind.2 (both.mono fun outcome w' _ h => ?_)
  cases outcome with
  | value => exact ⟨trivial, h⟩
  | failure | cancelled => exact h.elim

/-- **A change that meets no fault is committed**, with all that was pending. -/
theorem run_change {kind : Kind} {name : String} {f : Contents → Except Error Contents}
    (opens : Database.Statement.opens statement = true) (hf : f c = .ok after)
    (hd : k.current.execute statement = .ok d') :
    run (alone Faulty.perform) (change kind name statement f) ⟨c, { connection := k }⟩
      = (.value (), writtenTo after d') := by
  have tried : Always (within exactly) (fun _ => True)
      (Ends (fun _ w' => w' = writtenTo c d') fun _ _ => False) (tryHard (writeOnce statement))
      ⟨c, { connection := k }⟩ := by
    have once (w' : World Faulty) (h : w' = ⟨c, { connection := k }⟩) :
        Always (within exactly) (fun _ => True)
          (Ends (fun _ w' => w' = writtenTo c d') fun _ _ => False) (writeOnce statement) w' :=
      h ▸ always_writeOnce_exactly opens hd
    exact Retry.always_run calm_exactly once (fun _ _ h => h.elim) (fun _ _ h => h) (fun _ h => h)
      (fun _ _ _ h => h.elim) (fun _ _ _ _ h => h.elim) rfl
  have changed : Always (within exactly) (fun _ => True)
      (fun outcome w' => outcome = .value () ∧ w' = writtenTo after d')
      (change kind name statement f) ⟨c, { connection := k }⟩ := by
    refine always_locked (always_contents ?_)
    rw [hf]
    refine always_bind.2 (always_bind.2 (tried.mono fun outcome w' _ h => ⟨trivial, ?_⟩))
    cases outcome with
    | failure | cancelled => exact h.elim
    | value =>
      subst h
      exact always_setContents trivial ⟨trivial, rfl, rfl⟩
  have possible (q : Question Step) (w' : World Faulty) :
      within exactly q w' (alone Faulty.perform q w').1 (alone Faulty.perform q w').2 :=
    within_alone (fun _ => rfl) q
  obtain ⟨hvalue, hworld⟩ := changed.run possible
  exact Prod.ext hvalue hworld

end

/-! ### What comes later -/

/-- Whatever calls come later, and whatever the database refuses meanwhile, what is committed
mirrors the contents after them if all of them succeed. -/
def KeepsTogether (w : World (Brittle Connection Refusal)) : Prop :=
  ∀ (script : List (Option Refusal)) (calls : List Call),
    let later := run (alone Faulty.perform) (serveWhileFine serve calls)
      ⟨w.contents, { connection := w.medium.state, script }⟩
    later.1 = true → later.2.medium.connection.committed.Mirrors later.2.contents

/-- A database that mirrors contents mirrors what comes of a call, once its statement is
executed. -/
theorem mirrors_of_writes {call : Call} {c after : Contents} {d' : Database}
    (writes : Writes call statement) (h : d.Mirrors c) (effect : call.effect c = .ok after)
    (hd : d.execute statement = .ok d') : d'.Mirrors after := by
  cases writes with
  | gauge =>
    cases effect
    exact h.putGauge hd
  | increment =>
    obtain ⟨range, rfl⟩ := setCounter_checked effect
    exact h.addCounter range hd
  | counter =>
    obtain ⟨-, rfl⟩ := setCounter_checked effect
    exact h.putCounter hd

/-- The answer of a call, and the world that it leaves. -/
def served (call : Call) (w : World (Brittle Connection Refusal)) :
    call.Answer × World (Brittle Connection Refusal) :=
  run (alone perform) (serve call) w

/-- **A call that is broken off leaves the contents alone**, and its statement undone, pending or
committed. -/
theorem left_of_cancelled {call : Call} (writes : Writes call statement)
    (clean : w.medium.state = ⟨d, none⟩) (cancelled : (served call w).1 = .cancelled) :
    At w.contents (Left d statement) (served call w).2 := by
  have always : Always (within may) (fun _ => True)
      (fun outcome w' => outcome = .cancelled → At w.contents (Left d statement) w')
      (serve call) w := by
    have changed {kind : Kind} {name : String} {f : Contents → Except Error Contents}
        (opens : Database.Statement.opens statement = true) :
        Always (within may) (fun _ => True)
          (fun outcome w' => outcome = .cancelled → At w.contents (Left d statement) w')
          (change kind name statement f) w := by
      refine (always_change opens ⟨rfl, clean⟩).mono fun outcome w' _ h => ?_
      rintro rfl
      exact h
    cases writes with
    | gauge => exact changed (f := fun c => .ok (c.setGauge _ _)) rfl
    | increment => exact changed (f := fun c => c.setCounter _ <$> checked _ (c.total _ + _)) rfl
    | counter => exact changed (f := fun c => c.setCounter _ <$> checked _ _) rfl
  exact always.run (fun q w => within_alone (may_perform w) q) cancelled

/-- A call that meets no fault succeeds, and its statement is committed with all that was
pending. -/
theorem run_serve {call : Call} {c after : Contents} {k : Connection} {d' : Database}
    (writes : Writes call statement) (effect : call.effect c = .ok after)
    (hd : k.current.execute statement = .ok d') :
    run (alone Faulty.perform) (serveWhileFine serve [call]) ⟨c, { connection := k }⟩
      = (true, writtenTo after d') := by
  have served : run (alone Faulty.perform) (serve call) ⟨c, { connection := k }⟩
      = (.value (call.found after), writtenTo after d') := by
    cases writes with
    | gauge => exact run_change rfl effect hd
    | increment => exact run_change rfl effect hd
    | counter => exact run_change rfl effect hd
  rw [serveWhileFine, run_bind, served]
  rfl

/-- Some call changes another metric and would be done after a call and without it, whose effects
it does not make alike. -/
theorem exists_aside {call : Call} {before after : Contents} {d' : Database}
    (writes : Writes call statement) (effect : call.effect before = .ok after)
    (mirrors : d'.Mirrors after) (changes : ¬ after.Alike before) :
    ∃ other statement' with_ without d'', Writes other statement' ∧
      other.effect after = .ok with_ ∧ other.effect before = .ok without ∧
      d'.execute statement' = .ok d'' ∧ ¬ with_.Alike without := by
  -- A change of a gauge leaves the counters alone, and the other way round.
  have counter (same : after.counters = before.counters) :
      ∃ d'', d'.execute (.putCounter "" 0) = .ok d'' ∧
        ¬ (after.setCounter "" 0).Alike (before.setCounter "" 0) := by
    obtain ⟨rows, hrows, -⟩ := mirrors.counters
    refine ⟨_, (Database.execute_putCounter hrows "" 0).trans (if_pos (by decide)), fun alike => ?_⟩
    exact changes ⟨alike.gauges, fun name => by rw [same]⟩
  have gauge (same : after.gauges = before.gauges) :
      ∃ d'', d'.execute (.putGauge "" .zero) = .ok d'' ∧
        ¬ (after.setGauge "" .zero).Alike (before.setGauge "" .zero) := by
    obtain ⟨rows, hrows, -⟩ := mirrors.gauges
    refine ⟨_, (Database.execute_putGauge hrows "" .zero).trans (if_neg (by decide)),
      fun alike => ?_⟩
    exact changes ⟨fun name => by rw [same], alike.counters⟩
  cases writes with
  | gauge =>
    cases effect
    obtain ⟨d'', hd, other⟩ := counter rfl
    exact ⟨.setCounter "" 0, _, _, _, d'', .counter, rfl, rfl, hd, other⟩
  | increment =>
    obtain ⟨-, rfl⟩ := setCounter_checked effect
    obtain ⟨d'', hd, other⟩ := gauge rfl
    exact ⟨.updateGauge "" .zero, _, _, _, d'', .gauge, rfl, rfl, hd, other⟩
  | counter =>
    obtain ⟨-, rfl⟩ := setCounter_checked effect
    obtain ⟨d'', hd, other⟩ := gauge rfl
    exact ⟨.updateGauge "" .zero, _, _, _, d'', .gauge, rfl, rfl, hd, other⟩

/-- **A change that is broken off keeps contents and database together exactly if nothing of it is
left**: nothing committed, and nothing pending that a later call would make lasting. -/
theorem keepsTogether_iff {call : Call} {after : Contents} (writes : Writes call statement)
    (clean : w.medium.state = ⟨d, none⟩) (mirrors : d.Mirrors w.contents)
    (bounded : w.contents.Bounded) (effect : call.effect w.contents = .ok after)
    (changes : ¬ after.Alike w.contents) (cancelled : (served call w).1 = .cancelled) :
    KeepsTogether (served call w).2 ↔
      (served call w).2.medium.state = w.medium.state := by
  obtain ⟨hcontents, left⟩ := left_of_cancelled writes clean cancelled
  generalize (served call w).2 = w' at hcontents left
  constructor
  · intro keeps
    generalize hk : w'.medium.state = k at left
    cases left with
    | clean => exact clean.symm
    | @lasting d' hd =>
      -- The statement is committed, and the contents do not know of it.
      have mirrors' : w'.medium.state.committed.Mirrors w'.contents := keeps [] [] rfl
      rw [hk, hcontents] at mirrors'
      exact (changes ((mirrors_of_writes writes mirrors effect hd).alike mirrors')).elim
    | @pending d' hd =>
      have mirrors' := mirrors_of_writes writes mirrors effect hd
      obtain ⟨other, statement', _, without, d'', writes', effect', effect₀, hd', unlike⟩ :=
        exists_aside writes effect mirrors' changes
      -- The next call that succeeds commits both statements, but is in the contents alone.
      have later := keeps [] [other]
      have hrun := run_serve (k := ⟨d, some d'⟩) writes' effect₀ hd'
      rw [hcontents, hk, hrun] at later
      exact (unlike ((mirrors_of_writes writes' mirrors' effect' hd').alike (later rfl))).elim
  · intro same script calls later fine
    have rest : AtRest ⟨w'.contents, { connection := w'.medium.state, script }⟩ := by
      refine ⟨?_, ?_, ?_⟩
      · show w'.medium.state.pending = none
        rw [same, clean]
      · show w'.medium.state.committed.Mirrors w'.contents
        rw [same, clean, hcontents]
        exact mirrors
      · show w'.contents.Bounded
        rw [hcontents]
        exact bounded
    have always : Always (within Faulty.may) (fun _ => True) (fun fine w => fine = true → AtRest w)
        (serveWhileFine serve calls) ⟨w'.contents, { connection := w'.medium.state, script }⟩ :=
      always_serveWhileFine (fun call _ w h =>
        (Relational.always_serve call h).mono fun _ _ _ h' _ _ => h'.1) rest
    exact (always.run (fun q w => within_alone (Faulty.may_perform w) q) fine).mirrors

end Interrupted

end Telemetry.Store.Relational
