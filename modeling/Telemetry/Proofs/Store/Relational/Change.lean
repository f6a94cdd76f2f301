import Telemetry.Proofs.Retry
import Telemetry.Proofs.Store.Effect
import Telemetry.Store.Relational

/-!
# Changes on a database that refuses

A faulty connection lets a script refuse any statement and any commit, with any result code.
A refused statement or commit changes nothing, and a rollback goes through.

On such a connection a change ends in one of three ways (`Changed`): it is done, in the contents
and in what is committed alike; it is refused before the database is asked anything; or it
fails, and then neither the contents nor the connection have changed.  An attempt that fails
after its statement went through is rolled back, so the next one starts from what is committed
(`always_writeRow`).
-/

namespace Telemetry.Store.Relational

open Dialogue

/-! ### Faults -/

/-- What the database says when it refuses: its result code, if it gives one, and a message. -/
structure Refusal where
  code : Option Int
  message : String

def Refusal.failure (r : Refusal) : Failure := .database r.code r.message

/-- A connection whose statements and commits may be refused. -/
structure Faulty where
  connection : Connection
  /-- What the statements and commits to come meet, in order.  Those past the end go through. -/
  script : List (Option Refusal) := []
  /-- The number of statements and commits that have been tried. -/
  tried : Nat := 0

/-- Do something with the connection, unless the script refuses it. -/
def Faulty.unlessRefused (m : Faulty) (f : Connection → Except Failure Connection) :
    Outcome Failure Unit × Faulty :=
  match m.script with
  | some r :: script => (.failure r.failure, { m with script, tried := m.tried + 1 })
  | _ =>
      match f m.connection with
      | .ok connection =>
          (.value (), { connection, script := m.script.tail, tried := m.tried + 1 })
      | .error failure =>
          (.failure failure, { m with script := m.script.tail, tried := m.tried + 1 })

def Faulty.perform : (s : Step) → Faulty → s.Answer × Faulty
  | .connect, m => (.value (), m)
  | .execute statement, m => m.unlessRefused fun c => c.execute statement
  | .commit, m => m.unlessRefused fun c => .ok c.commit
  | .rollback, m => (.value (), { m with connection := m.connection.rollback })
  | .migrations, m => (.value (m.connection.current.migrations.getD []), m)
  | .gaugeRows, m => (rowsOrFailure "gauge" m.connection.current.gauges, m)
  | .counterRows, m => (rowsOrFailure "counter" m.connection.current.counters, m)
  | .probe, m => (.value (), m)
  | .pause _, m => (true, m)
  | .note _, m => ((), m)

/-- What may come of a statement or a commit: it is done, it fails on its own account, or the
database refuses it. -/
inductive Met (f : Connection → Except Failure Connection) (m : Faulty) :
    Outcome Failure Unit → Faulty → Prop
  | done {m' : Faulty} (h : f m.connection = .ok m'.connection) : Met f m (.value ()) m'
  | failed {m' : Faulty} {e : Failure} (h : f m.connection = .error e)
      (same : m'.connection = m.connection) : Met f m (.failure e) m'
  | refused {m' : Faulty} (r : Refusal) (same : m'.connection = m.connection) :
      Met f m (.failure r.failure) m'

/-- What may come of a step on a faulty connection. -/
def Faulty.may : (s : Step) → World Faulty → s.Answer → Faulty → Prop
  | .execute statement, w, answer, m => Met (fun c => c.execute statement) w.medium answer m
  | .commit, w, answer, m => Met (fun c => .ok c.commit) w.medium answer m
  | .rollback, w, answer, m =>
      answer = .value () ∧ m.connection = w.medium.connection.rollback
  | .pause _, w, through, m => (through : Bool) = true ∧ m = w.medium
  | .note _, w, _, m => m = w.medium
  | s, w, answer, m => (answer, m) = Faulty.perform s w.medium

theorem met_unlessRefused (m : Faulty) (f : Connection → Except Failure Connection) :
    Met f m (m.unlessRefused f).1 (m.unlessRefused f).2 := by
  unfold Faulty.unlessRefused
  split
  · exact .refused _ rfl
  · split
    next h => exact .done h
    next h => exact .failed h rfl

theorem Faulty.may_perform (w : World Faulty) (s : Step) :
    may s w (perform s w.medium).1 (perform s w.medium).2 := by
  cases s with
  | execute statement => exact met_unlessRefused w.medium _
  | commit => exact met_unlessRefused w.medium _
  | rollback => exact ⟨rfl, rfl⟩
  | pause d => exact ⟨rfl, rfl⟩
  | connect | migrations | gaugeRows | counterRows | probe | note => rfl

/-- A step of the store is known by what may come of it. -/
theorem always_take {w : World Faulty} (s : Step) {after : s.Answer → World Faulty → Prop}
    (h : ∀ answer m, Faulty.may s w answer m → after answer { w with medium := m }) :
    Always (within Faulty.may) (fun _ => True) after (take s) w :=
  always_step trivial fun answer m hm => ⟨trivial, h answer m hm⟩

/-! ### One attempt -/

/-- How an attempt to write a row over a database ends, and how it leaves the connection. -/
inductive Wrote (d : Database) (statement : Statement) : Outcome Failure Unit → Connection → Prop
  | done {d' : Database} (h : d.execute statement = .ok d') :
      Wrote d statement (.value ()) ⟨d', none⟩
  | failed {e : Failure} (h : e.isDatabase = true ∨ d.execute statement = .error e) :
      Wrote d statement (.failure e) ⟨d, none⟩

/-- How an attempt stands before it is rolled back: a failed commit leaves the statement
pending. -/
inductive Stands (d : Database) (statement : Statement) : Outcome Failure Unit → Connection → Prop
  | done {d' : Database} (h : d.execute statement = .ok d') :
      Stands d statement (.value ()) ⟨d', none⟩
  | failed {e : Failure} (h : d.execute statement = .error e) :
      Stands d statement (.failure e) ⟨d, none⟩
  | refused (r : Refusal) (pending : Option Database) :
      Stands d statement (.failure r.failure) ⟨d, pending⟩

variable {w : World Faulty} {d : Database} {statement : Statement}

/-- A statement that opens a transaction leaves its changes pending. -/
theorem execute_opens (connection : Connection)
    (opens : Database.Statement.opens statement = true) :
    connection.execute statement
      = (connection.current.execute statement).map fun d' => ⟨connection.committed, some d'⟩ := by
  unfold Connection.execute
  cases connection.current.execute statement with
  | error e => rfl
  | ok d' =>
    rw [opens]
    rfl

/-- On a clean connection, it changes what is committed. -/
theorem execute_clean (opens : Database.Statement.opens statement = true) :
    Connection.execute ⟨d, none⟩ statement
      = (d.execute statement).map fun d' => ⟨d, some d'⟩ :=
  execute_opens ⟨d, none⟩ opens

/-- The steps of an attempt on a clean connection. -/
theorem always_execute_commit (opens : Database.Statement.opens statement = true)
    (clean : w.medium.connection = ⟨d, none⟩) :
    Always (within Faulty.may) (fun _ => True)
      (fun outcome w' => w'.contents = w.contents ∧ Stands d statement outcome w'.medium.connection)
      ((take (.execute statement)).andThen fun _ => take .commit) w := by
  have executed : Always (within Faulty.may) (fun _ => True)
      (fun outcome w' => w'.contents = w.contents ∧
        Met (fun c => c.execute statement) w.medium outcome w'.medium)
      (take (.execute statement)) w :=
    always_take (.execute statement) fun answer m hm => ⟨rfl, hm⟩
  apply executed.andThen
  case value =>
    rintro ⟨⟩ w' _ ⟨hcontents, hmet⟩
    cases hmet with
    | done h =>
      rw [clean, execute_clean opens] at h
      cases hd : d.execute statement with
      | error e => rw [hd] at h; cases h
      | ok d' =>
        -- The statement went through, so what remains open is only whether the commit does.
        have pending : w'.medium.connection = ⟨d, some d'⟩ := by
          rw [hd] at h; exact (Except.ok.inj h).symm
        refine always_take .commit fun answer m hm => ⟨hcontents, ?_⟩
        cases hm with
        | done h =>
          rw [pending] at h
          rw [← Except.ok.inj h]
          exact .done hd
        | failed h => cases h
        | refused r same =>
          rw [same, pending]
          exact .refused r (some d')
  case failure =>
    rintro e w' _ ⟨hcontents, hmet⟩
    refine ⟨hcontents, ?_⟩
    cases hmet with
    | failed h same =>
      rw [same, clean]
      rw [clean, execute_clean opens] at h
      cases hd : d.execute statement with
      | ok d' => rw [hd] at h; cases h
      | error e' => rw [hd] at h; cases h; exact .failed hd
    | refused r same =>
      rw [same, clean]
      exact .refused r none
  case cancelled =>
    rintro w' _ ⟨_, hmet⟩
    cases hmet

/-- Dropping what is pending leaves the connection clean. -/
theorem always_rollbackAnd {ε α : Type} {e : ε} :
    Always (within Faulty.may) (fun _ => True)
      (fun outcome w' => outcome = .failure e ∧ w'.contents = w.contents ∧
        w'.medium.connection = w.medium.connection.rollback)
      (rollbackAnd e : Doing Step.Answer (Outcome ε α)) w := by
  refine always_bind.2 (always_take .rollback ?_)
  rintro _ m ⟨rfl, hm⟩
  exact ⟨trivial, rfl, rfl, hm⟩

/-- **An attempt on a clean connection leaves it clean**, with the statement committed or not. -/
theorem always_writeOnce (opens : Database.Statement.opens statement = true)
    (clean : w.medium.connection = ⟨d, none⟩) :
    Always (within Faulty.may) (fun _ => True)
      (fun outcome w' => w'.contents = w.contents ∧ Wrote d statement outcome w'.medium.connection)
      (writeOnce statement) w := by
  refine always_bind.2 ((always_execute_commit opens clean).mono ?_)
  rintro outcome w' _ ⟨hcontents, hstands⟩
  -- A failure of the database is rolled back; any other one has left nothing pending.
  generalize hc : w'.medium.connection = c at hstands
  cases hstands with
  | done h => exact ⟨trivial, hcontents, hc ▸ .done h⟩
  | refused r pending =>
    refine always_rollbackAnd.mono ?_
    rintro _ w'' _ ⟨rfl, hcontents', hrolled⟩
    refine ⟨hcontents'.trans hcontents, ?_⟩
    rw [hrolled, hc]
    exact .failed (.inl rfl)
  | failed h =>
    dsimp only
    split
    · refine always_rollbackAnd.mono ?_
      rintro _ w'' _ ⟨rfl, hcontents', hrolled⟩
      refine ⟨hcontents'.trans hcontents, ?_⟩
      rw [hrolled, hc]
      exact .failed (.inr h)
    · exact ⟨trivial, hcontents, hc ▸ .failed (.inr h)⟩

/-! ### The schedule of attempts -/

theorem calm_surroundings : surroundings.Calm (within Faulty.may) fun _ => True where
  pause d w after _ h := by
    refine always_take (.pause d) ?_
    rintro _ _ ⟨rfl, rfl⟩
    exact h
  note n w after _ h := by
    refine always_take (.note n) ?_
    rintro _ _ rfl
    exact h

/-- How the writing of a row ends, and how it leaves the connection.  Only a failure that is no
refusal of the database is unexpected. -/
inductive Settled (d : Database) (statement : Statement) : Outcome Error Unit → Connection → Prop
  | done {d' : Database} (h : d.execute statement = .ok d') :
      Settled d statement (.value ()) ⟨d', none⟩
  | failed (fault : Fault) : Settled d statement (.failure (.storage fault)) ⟨d, none⟩
  | unexpected {e : Failure} (h : d.execute statement = .error e) (he : e.isDatabase = false) :
      Settled d statement (.failure (.unexpected e)) ⟨d, none⟩

/-- **The writing of a row on a clean connection leaves it clean**, whichever attempts fail. -/
theorem always_writeRow {kind : Kind} {name : String}
    (opens : Database.Statement.opens statement = true)
    (clean : w.medium.connection = ⟨d, none⟩) :
    Always (within Faulty.may) (fun _ => True)
      (fun outcome w' => w'.contents = w.contents ∧
        Settled d statement outcome w'.medium.connection)
      (writeRow kind name statement) w := by
  have once (w' : World Faulty) (h : w'.contents = w.contents ∧ w'.medium.connection = ⟨d, none⟩) :
      Always (within Faulty.may) (fun _ => True)
        (fun outcome w'' => w''.contents = w.contents ∧
          Wrote d statement outcome w''.medium.connection)
        (writeOnce statement) w' := by
    refine (always_writeOnce opens h.2).mono ?_
    exact fun _ _ _ h' => ⟨h'.1.trans h.1, h'.2⟩
  have tried : Always (within Faulty.may) (fun _ => True)
      (fun outcome w' => w'.contents = w.contents ∧
        Settled d statement (outcome.mapFailure (errorOf (.rowNotWritten kind name)))
          w'.medium.connection)
      (tryHard (writeOnce statement)) w := by
    -- What carries the schedule is that a failed attempt leaves the connection as it found it.
    refine Retry.always_run calm_surroundings once ?again ?value ?cancelled ?fatal ?exhausted
      ⟨rfl, clean⟩
    case again =>
      rintro e w' ⟨hcontents, hwrote⟩
      refine ⟨hcontents, ?_⟩
      generalize w'.medium.connection = c at hwrote
      cases hwrote
      rfl
    case value =>
      rintro ⟨⟩ w' ⟨hcontents, hwrote⟩
      generalize w'.medium.connection = c at hwrote
      cases hwrote with
      | done h => exact ⟨hcontents, .done h⟩
    case cancelled =>
      rintro w' ⟨_, hwrote⟩
      cases hwrote
    case fatal =>
      rintro e w' - ⟨hcontents, hwrote⟩
      refine ⟨hcontents, ?_⟩
      generalize w'.medium.connection = c at hwrote
      cases hwrote with
      | failed h =>
        cases he : e.isDatabase with
        | true =>
          simp only [Outcome.mapFailure, errorOf, he, if_true]
          exact .failed _
        | false =>
          -- A failure that is no refusal can only come from the statement itself.
          rw [he] at h
          simp only [Outcome.mapFailure, errorOf, he, Bool.false_eq_true, if_false]
          exact .unexpected (h.resolve_left Bool.false_ne_true) he
    case exhausted =>
      rintro n e w' - ⟨hcontents, hwrote⟩
      refine ⟨hcontents, ?_⟩
      generalize w'.medium.connection = c at hwrote
      cases hwrote
      exact .failed _
  exact always_bind.2 (tried.mono fun outcome w' _ h => ⟨trivial, h⟩)

/-! ### Changes -/

inductive Changed (statement : Statement) (f : Contents → Except Error Contents)
    (w : World Faulty) (d : Database) : Outcome Error Unit → World Faulty → Prop
  /-- It is done, in the contents and in the database. -/
  | done {after : Contents} {d' : Database} {w' : World Faulty} (h : f w.contents = .ok after)
      (hd : d.execute statement = .ok d') (contents : w'.contents = after)
      (connection : w'.medium.connection = ⟨d', none⟩) : Changed statement f w d (.value ()) w'
  /-- It is refused before anything has been tried. -/
  | refused {e : Error} (h : f w.contents = .error e) : Changed statement f w d (.failure e) w
  /-- It fails and leaves no trace. -/
  | failed {after : Contents} {e : Error} {w' : World Faulty} (h : f w.contents = .ok after)
      (he : (∃ fault, e = .storage fault) ∨
        ∃ failure, d.execute statement = .error failure ∧ failure.isDatabase = false)
      (contents : w'.contents = w.contents) (connection : w'.medium.connection = ⟨d, none⟩) :
      Changed statement f w d (.failure e) w'

/-- **A change is done, refused, or leaves no trace.** -/
theorem always_change {kind : Kind} {name : String} {f : Contents → Except Error Contents}
    (opens : Database.Statement.opens statement = true)
    (clean : w.medium.connection = ⟨d, none⟩) :
    Always (within Faulty.may) (fun _ => True) (Changed statement f w d)
      (change kind name statement f) w := by
  refine always_locked (always_contents ?_)
  cases h : f w.contents with
  | error e => exact ⟨trivial, .refused h⟩
  | ok after =>
    apply (always_writeRow opens clean).andThen
    case value =>
      rintro ⟨⟩ w' _ ⟨hcontents, hsettled⟩
      generalize hc : w'.medium.connection = c at hsettled
      cases hsettled with
      | done hd => exact always_setContents trivial ⟨trivial, .done h hd rfl hc⟩
    case failure =>
      rintro e w' _ ⟨hcontents, hsettled⟩
      generalize hc : w'.medium.connection = c at hsettled
      cases hsettled with
      | failed fault => exact .failed h (.inl ⟨fault, rfl⟩) hcontents hc
      | unexpected hd he => exact .failed h (.inr ⟨_, hd, he⟩) hcontents hc
    case cancelled =>
      rintro w' _ ⟨_, hsettled⟩
      cases hsettled

end Telemetry.Store.Relational
