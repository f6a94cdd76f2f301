import Telemetry.Proofs.Store.Relational.Opening

/-!
# Rollbacks that are refused

On an unruly connection a script may refuse rollbacks as well as statements and commits.  A refused
rollback leaves what is pending in the open transaction, and the store goes on as if it had gone
through.  `Drift` says where the failed attempts of one change may leave the connection, and how many
rollbacks have then spilled, that is, been refused over pending changes.  Whatever is refused, a
change that is done has executed its statement once on top of where the connection had drifted to,
and has made all of that lasting (`always_change`).

If nothing is pending before a change and no rollback spills during it, the connection does not drift
(`Drift.eq_of_clean`).  Then an increment that succeeds is added once, and a change that fails leaves
nothing behind for a later call to commit.
-/

namespace Telemetry.Store.Relational

open Dialogue

/-! ### Unruly connections -/

/-- A connection whose statements, commits and rollbacks may be refused. -/
structure Unruly extends Faulty where
  /-- The number of rollbacks that have been refused while changes were pending. -/
  spilled : Nat := 0

/-- What a refused rollback adds to the spilled ones. -/
def spill (c : Connection) : Nat := if c.pending.isSome then 1 else 0

/-- Drop what is pending, unless the script refuses it. -/
def Unruly.rollback (m : Unruly) : Outcome Failure Unit × Unruly :=
  match m.script with
  | some r :: script =>
      (.failure r.failure, { m with script, spilled := m.spilled + spill m.connection })
  | _ => (.value (), { m with connection := m.connection.rollback, script := m.script.tail })

def Unruly.perform : (s : Step) → Unruly → s.Answer × Unruly
  | .rollback, m => m.rollback
  | s, m =>
      let result := Faulty.perform s m.toFaulty
      (result.1, { m with toFaulty := result.2 })

/-- What may come of a rollback: it is done, or the database refuses it. -/
inductive RolledBack (m : Unruly) : Outcome Failure Unit → Unruly → Prop
  | done {m' : Unruly} (connection : m'.connection = m.connection.rollback)
      (same : m'.spilled = m.spilled) : RolledBack m (.value ()) m'
  | refused {m' : Unruly} (r : Refusal) (same : m'.connection = m.connection)
      (spilled : m'.spilled = m.spilled + spill m.connection) :
      RolledBack m (.failure r.failure) m'

namespace Unruly

/-- What may come of a step on an unruly connection. -/
def may : (s : Step) → World Unruly → s.Answer → Unruly → Prop
  | .rollback, w, answer, m => RolledBack w.medium answer m
  | s, w, answer, m =>
      Faulty.may s ⟨w.contents, w.medium.toFaulty⟩ answer m.toFaulty
        ∧ m.spilled = w.medium.spilled

theorem may_perform (w : World Unruly) (s : Step) :
    may s w (perform s w.medium).1 (perform s w.medium).2 := by
  have other : Faulty.may s ⟨w.contents, w.medium.toFaulty⟩ (Faulty.perform s w.medium.toFaulty).1
      (Faulty.perform s w.medium.toFaulty).2 := Faulty.may_perform _ s
  cases s with
  | rollback =>
    show RolledBack w.medium w.medium.rollback.1 w.medium.rollback.2
    unfold rollback
    split
    · exact .refused _ rfl rfl
    · exact .done rfl rfl
  | connect | execute | commit | migrations | gaugeRows | counterRows | probe | pause | note =>
    exact ⟨other, rfl⟩

variable {w : World Unruly} {statement : Statement} {k : Connection} {n : Nat}

/-- A step of the store is known by what may come of it. -/
theorem always_take (s : Step) {after : s.Answer → World Unruly → Prop}
    (h : ∀ answer m, may s w answer m → after answer { w with medium := m }) :
    Always (within may) (fun _ => True) after (take s) w :=
  always_step trivial fun answer m hm => ⟨trivial, h answer m hm⟩

/-! ### Drifting -/

/-- Where failed attempts to write a row may leave a connection, and how many rollbacks have
spilled. -/
inductive Drift (statement : Statement) (k : Connection) : Nat → Connection → Prop
  | refl : Drift statement k 0 k
  /-- An attempt has been rolled back. -/
  | back {n : Nat} {k' : Connection} (h : Drift statement k n k') : Drift statement k n k'.rollback
  /-- The statement has failed, and so has the rollback. -/
  | held {n : Nat} {k' : Connection} (h : Drift statement k n k') :
      Drift statement k (n + spill k') k'
  /-- The statement has been executed, but could neither be committed nor rolled back. -/
  | left {n : Nat} {k' k'' : Connection} (h : Drift statement k n k')
      (executed : k'.execute statement = .ok k'') : Drift statement k (n + 1) k''

/-- **Without spills, a clean connection does not drift.** -/
theorem Drift.eq_of_clean {k' : Connection} (h : Drift statement k n k')
    (clean : k.pending = none) (none : n = 0) : k' = k := by
  induction h with
  | refl => rfl
  | back h ih =>
    rw [ih none]
    exact congrArg (Connection.mk k.committed) clean.symm
  | held h ih => exact ih (Nat.add_eq_zero_iff.1 none).1
  | left h executed => cases none

/-- A statement that is executed leaves what is committed alone, if it opens a transaction. -/
theorem rollback_execute {k' : Connection} (opens : Database.Statement.opens statement = true)
    (executed : k.execute statement = .ok k') : k'.rollback = k.rollback ∧ spill k' = 1 := by
  rw [execute_opens k opens] at executed
  cases hd : k.current.execute statement with
  | error e => rw [hd] at executed; cases executed
  | ok d =>
    rw [hd] at executed
    cases executed
    exact ⟨rfl, rfl⟩

/-! ### One attempt -/

/-- How an attempt to write a row stands before it is rolled back. -/
inductive Stood (statement : Statement) (k : Connection) :
    Outcome Failure Unit → Connection → Prop
  | done {k' : Connection} (executed : k.execute statement = .ok k') :
      Stood statement k (.value ()) k'.commit
  | failed {e : Failure} (h : e.isDatabase = true ∨ k.current.execute statement = .error e) :
      Stood statement k (.failure e) k
  /-- The commit has been refused. -/
  | pending {k' : Connection} (r : Refusal) (executed : k.execute statement = .ok k') :
      Stood statement k (.failure r.failure) k'

theorem always_execute_commit (opens : Database.Statement.opens statement = true) :
    Always (within may) (fun _ => True)
      (fun outcome w' => w'.contents = w.contents ∧ w'.medium.spilled = w.medium.spilled ∧
        Stood statement w.medium.connection outcome w'.medium.connection)
      ((take (.execute statement)).andThen fun _ => take .commit) w := by
  have executed : Always (within may) (fun _ => True)
      (fun outcome w' => w'.contents = w.contents ∧ w'.medium.spilled = w.medium.spilled ∧
        Met (fun c => c.execute statement) w.medium.toFaulty outcome w'.medium.toFaulty)
      (take (.execute statement)) w :=
    always_take (.execute statement) fun _ _ hm => ⟨rfl, hm.2, hm.1⟩
  apply executed.andThen
  case value =>
    rintro ⟨⟩ w' - ⟨hcontents, hspilled, hmet⟩
    cases hmet with
    | done h =>
      refine always_take .commit ?_
      rintro answer m ⟨hm, hspilled'⟩
      refine ⟨hcontents, hspilled'.trans hspilled, ?_⟩
      -- The statement is pending here; the commit alone decides.
      show Stood statement w.medium.connection answer m.connection
      cases hm with
      | done hcommit =>
        rw [← Except.ok.inj hcommit]
        exact .done h
      | failed hcommit => cases hcommit
      | refused r same =>
        rw [same]
        exact .pending r h
  case failure =>
    rintro e w' - ⟨hcontents, hspilled, hmet⟩
    refine ⟨hcontents, hspilled, ?_⟩
    cases hmet with
    | failed h same =>
      rw [same]
      refine .failed (.inr ?_)
      have h : w.medium.connection.execute statement = .error e := h
      rw [execute_opens _ opens] at h
      cases hd : w.medium.connection.current.execute statement with
      | ok d => rw [hd] at h; cases h
      | error e' => rw [hd] at h; cases h; rfl
    | refused r same =>
      rw [same]
      exact .failed (.inl rfl)
  case cancelled =>
    rintro w' - ⟨-, -, hmet⟩
    cases hmet

theorem always_rollbackAnd {ε α : Type} {e : ε} :
    Always (within may) (fun _ => True)
      (fun outcome w' => outcome = .failure e ∧ w'.contents = w.contents ∧
        ((w'.medium.connection = w.medium.connection.rollback
            ∧ w'.medium.spilled = w.medium.spilled) ∨
          w'.medium.connection = w.medium.connection
            ∧ w'.medium.spilled = w.medium.spilled + spill w.medium.connection))
      (rollbackAnd e : Doing Step.Answer (Outcome ε α)) w := by
  refine always_bind.2 (always_take .rollback ?_)
  intro answer m hm
  cases hm with
  | done connection same => exact ⟨trivial, rfl, rfl, .inl ⟨connection, same⟩⟩
  | refused r same spilled => exact ⟨trivial, rfl, rfl, .inr ⟨same, spilled⟩⟩

/-- Where a change stands after some attempts: the connection has drifted, and that is all. -/
structure Drifted (statement : Statement) (w w' : World Unruly) : Prop where
  contents : w'.contents = w.contents
  drift : ∃ n, w'.medium.spilled = w.medium.spilled + n ∧
    Drift statement w.medium.connection n w'.medium.connection

/-- A change has been committed: its statement has been executed once where the connection had
drifted to. -/
def Committed (statement : Statement) (w w' : World Unruly) : Prop :=
  ∃ n k k', w'.medium.spilled = w.medium.spilled + n ∧
    Drift statement w.medium.connection n k ∧ k.execute statement = .ok k' ∧
      w'.medium.connection = k'.commit

/-- How an attempt ends, if it is not cancelled. -/
def Attempted (statement : Statement) (w : World Unruly) :
    Outcome Failure Unit → World Unruly → Prop :=
  Ends (fun _ => Committed statement w) fun e w' =>
    Drifted statement w w' ∧
      (e.isDatabase = true ∨ ∃ d : Database, d.execute statement = .error e)

/-- **An attempt that fails lets the connection drift.** -/
theorem always_writeOnce (opens : Database.Statement.opens statement = true) {w₀ : World Unruly}
    (h : Drifted statement w₀ w) :
    Always (within may) (fun _ => True) (Attempted statement w₀) (writeOnce statement) w := by
  obtain ⟨hcontents₀, n, hspilled₀, drift⟩ := h
  refine always_bind.2 ((always_execute_commit opens).mono ?_)
  rintro outcome w' - ⟨hcontents, hspilled, hstood⟩
  -- After the rollback, done or not, the connection has drifted from where this attempt left it.
  have rolled {e : Failure} (reason : e.isDatabase = true ∨ ∃ d : Database,
        d.execute statement = .error e)
      (done : Drift statement w₀.medium.connection n w'.medium.connection.rollback)
      (refused : Drift statement w₀.medium.connection (n + spill w'.medium.connection)
        w'.medium.connection) :
      Always (within may) (fun _ => True) (Attempted statement w₀)
        (rollbackAnd e : Doing Step.Answer (Outcome Failure Unit)) w' := by
    refine always_rollbackAnd.mono ?_
    rintro _ w'' - ⟨rfl, hcontents', ⟨hc, hs⟩ | ⟨hc, hs⟩⟩
    · refine ⟨⟨?_, n, ?_, ?_⟩, reason⟩
      · rw [hcontents', hcontents, hcontents₀]
      · rw [hs, hspilled, hspilled₀]
      · rw [hc]; exact done
    · refine ⟨⟨?_, n + spill w'.medium.connection, ?_, ?_⟩, reason⟩
      · rw [hcontents', hcontents, hcontents₀]
      · rw [hs, hspilled, hspilled₀, Nat.add_assoc]
      · rw [hc]; exact refused
  generalize hk : w'.medium.connection = k at hstood rolled
  cases hstood with
  | @done k' executed =>
    refine ⟨trivial, n, w.medium.connection, k', ?_, drift, executed, hk⟩
    rw [hspilled, hspilled₀]
  | pending r executed =>
    obtain ⟨back, one⟩ := rollback_execute opens executed
    refine rolled (.inl rfl) ?_ ?_
    · rw [back]; exact drift.back
    · rw [one]; exact drift.left executed
  | @failed e h =>
    have reason : e.isDatabase = true ∨ ∃ d : Database, d.execute statement = .error e :=
      h.imp id fun h => ⟨_, h⟩
    dsimp only
    split
    · exact rolled reason drift.back drift.held
    · refine ⟨trivial, ⟨?_, n, ?_, ?_⟩, reason⟩
      · rw [hcontents, hcontents₀]
      · rw [hspilled, hspilled₀]
      · rw [hk]; exact drift

/-! ### The schedule of attempts -/

theorem calm_surroundings : surroundings.Calm (within may) fun _ => True where
  pause d w after _ h := by
    refine always_take (.pause d) ?_
    rintro _ ⟨m, spilled⟩ ⟨⟨rfl, rfl⟩, rfl⟩
    exact h
  note n w after _ h := by
    refine always_take (.note n) ?_
    rintro _ ⟨m, spilled⟩ ⟨rfl, rfl⟩
    exact h

/-- An error of a change comes of the database, or of a statement that cannot be executed. -/
def Explained (statement : Statement) (e : Error) : Prop :=
  (∃ fault, e = .storage fault) ∨
    ∃ failure, e = .unexpected failure ∧ failure.isDatabase = false ∧
      ∃ d : Database, d.execute statement = .error failure

theorem always_writeRow {kind : Kind} {name : String}
    (opens : Database.Statement.opens statement = true) :
    Always (within may) (fun _ => True)
      (Ends (fun _ => Committed statement w) fun e w' => Drifted statement w w' ∧
        Explained statement e)
      (writeRow kind name statement) w := by
  have start : Drifted statement w w := ⟨rfl, 0, rfl, .refl⟩
  have tried : Always (within may) (fun _ => True)
      (fun outcome w' => Ends (fun _ => Committed statement w)
        (fun e w' => Drifted statement w w' ∧ Explained statement e)
        (outcome.mapFailure (errorOf (.rowNotWritten kind name))) w')
      (tryHard (writeOnce statement)) w := by
    -- `Drifted` is what one attempt hands to the next.
    refine Retry.always_run calm_surroundings (fun w' h => always_writeOnce opens h)
      (fun e w' h => h.1) (fun _ _ h => h) (fun _ h => h) ?fatal ?exhausted start
    case fatal =>
      rintro e w' - ⟨drifted, reason⟩
      refine ⟨drifted, ?_⟩
      cases he : e.isDatabase with
      | true =>
        rw [errorOf, if_pos he]
        exact .inl ⟨_, rfl⟩
      | false =>
        rw [he] at reason
        rw [errorOf, if_neg (by rw [he]; exact Bool.false_ne_true)]
        exact .inr ⟨e, rfl, he, reason.resolve_left Bool.false_ne_true⟩
    case exhausted =>
      rintro n e w' - ⟨drifted, -⟩
      exact ⟨drifted, .inl ⟨_, rfl⟩⟩
  exact always_bind.2 (tried.mono fun _ _ _ h => ⟨trivial, h⟩)

/-! ### Changes -/

/-- How a change ends on an unruly connection. -/
inductive Changed (statement : Statement) (f : Contents → Except Error Contents)
    (w : World Unruly) : Outcome Error Unit → World Unruly → Prop
  /-- It is done, in the contents and on top of what the connection had drifted to. -/
  | done {after : Contents} {w' : World Unruly} (h : f w.contents = .ok after)
      (committed : Committed statement w w') (contents : w'.contents = after) :
      Changed statement f w (.value ()) w'
  /-- It is refused before anything has been tried. -/
  | refused {e : Error} (h : f w.contents = .error e) : Changed statement f w (.failure e) w
  /-- It fails, and the connection has drifted. -/
  | failed {after : Contents} {e : Error} {w' : World Unruly} (h : f w.contents = .ok after)
      (drifted : Drifted statement w w') (explained : Explained statement e) :
      Changed statement f w (.failure e) w'

/-- **Whatever is refused, a change is done once on top of what has drifted, or not at all.** -/
theorem always_change {kind : Kind} {name : String} {f : Contents → Except Error Contents}
    (opens : Database.Statement.opens statement = true) :
    Always (within may) (fun _ => True) (Changed statement f w) (change kind name statement f) w := by
  refine always_locked (always_contents ?_)
  cases h : f w.contents with
  | error e => exact ⟨trivial, .refused h⟩
  | ok after =>
    apply (always_writeRow opens).andThen
    case value =>
      rintro ⟨⟩ w' - committed
      exact always_setContents trivial ⟨trivial, .done h committed rfl⟩
    case failure =>
      rintro e w' - ⟨drifted, explained⟩
      exact .failed h drifted explained
    case cancelled =>
      rintro w' - ended
      exact ended.elim

/-! ### Faith -/

/-- The calls that write one row, each with its statement. -/
inductive Writes : Call → Statement → Prop
  | gauge {name : String} {value : Double} : Writes (.updateGauge name value) (.putGauge name value)
  | increment {name : String} {delta : Int} :
      Writes (.updateCounter name delta) (.addCounter name delta)
  | counter {name : String} {value : Int} :
      Writes (.setCounter name value) (.putCounter name value)

/-- The answer of a call, and the world that it leaves. -/
def served (call : Call) (w : World Unruly) : call.Answer × World Unruly :=
  run (alone perform) (serve call) w

/-- The database that is committed after some more calls. -/
def lasting (later : List Call) (w : World Unruly) : Database :=
  (run (alone perform) (serveEach serve later) w).2.medium.connection.committed

/-- The world with the contents and the connection of an earlier one. -/
def putBack (before after : World Unruly) : World Unruly :=
  ⟨before.contents, { after.medium with connection := before.medium.connection }⟩

/-- A call keeps faith with the one who makes it. -/
structure KeepsFaith (call : Call) (w : World Unruly) : Prop where
  /-- An increment that succeeds is added once to what was committed. -/
  added : ∀ name delta result, call = .updateCounter name delta →
    (served call w).1 = .value result →
    w.medium.connection.committed.execute (.addCounter name delta)
      = .ok (served call w).2.medium.connection.committed
  /-- After a storage fault, whatever is called later makes the same database last as if the call
  had not written anything. -/
  forgotten : ∀ statement fault, Writes call statement →
    (served call w).1 = .failure (.storage fault) →
    ∀ later, lasting later (served call w).2 = lasting later (putBack w (served call w).2)

/-- How a call that writes one row ends. -/
structure Written {α : Type} (statement : Statement) (w : World Unruly) (outcome : Outcome Error α)
    (w' : World Unruly) : Prop where
  value : ∀ a, outcome = .value a → Committed statement w w'
  failure : ∀ e, outcome = .failure e → Drifted statement w w'

theorem Changed.written {f : Contents → Except Error Contents} {outcome : Outcome Error Unit}
    {w' : World Unruly} (h : Changed statement f w outcome w') : Written statement w outcome w' := by
  cases h with
  | done _ committed => exact ⟨fun _ _ => committed, nofun⟩
  | refused => exact ⟨nofun, fun _ _ => ⟨rfl, 0, rfl, .refl⟩⟩
  | failed _ drifted => exact ⟨nofun, fun _ _ => drifted⟩

theorem always_serve {call : Call} (writes : Writes call statement) :
    Always (within may) (fun _ => True) (Written statement w) (serve call) w := by
  have changed {kind : Kind} {name : String} {f : Contents → Except Error Contents}
      (opens : Database.Statement.opens statement = true) :
      Always (within may) (fun _ => True) (Written statement w) (change kind name statement f) w :=
    (always_change opens).mono fun _ _ _ h => h.written
  cases writes with
  | @gauge name value =>
    show Always _ _ _ (change .gauge name (.putGauge name value) fun c =>
      .ok (c.setGauge name value)) w
    exact changed rfl
  | @increment name delta =>
    show Always _ _ _ (change .counter name (.addCounter name delta) _) w
    exact changed rfl
  | @counter name value =>
    show Always _ _ _ (change .counter name (.putCounter name value) _) w
    exact changed rfl

/-- **A call that starts clean keeps faith, unless a rollback spills during it.** -/
theorem keepsFaith_of_unspilled {call : Call} (clean : w.medium.connection.pending = none)
    (unspilled : (served call w).2.medium.spilled = w.medium.spilled) : KeepsFaith call w := by
  have written {statement : Statement} (writes : Writes call statement) :
      Written statement w (served call w).1 (served call w).2 :=
    (always_serve writes).run fun q w => within_alone (may_perform w) q
  have none_spilled {n : Nat} (h : (served call w).2.medium.spilled = w.medium.spilled + n) :
      n = 0 := by
    rw [unspilled] at h
    omega
  refine ⟨?_, ?_⟩
  · rintro name delta result rfl hvalue
    obtain ⟨n, k, k', hn, drift, executed, hcommit⟩ := (written .increment).value result hvalue
    have hk : k = ⟨w.medium.connection.committed, none⟩ :=
      (drift.eq_of_clean clean (none_spilled hn)).trans
        (congrArg (Connection.mk w.medium.connection.committed) clean)
    rw [hk, execute_clean rfl] at executed
    cases hd : w.medium.connection.committed.execute (.addCounter name delta) with
    | error e => rw [hd] at executed; cases executed
    | ok d' =>
      rw [hd] at executed
      cases executed
      rw [hcommit]
      rfl
  · intro statement fault writes hfailure later
    obtain ⟨hcontents, n, hn, drift⟩ := (written writes).failure _ hfailure
    -- The connection has not drifted, so there is nothing to put back.
    have hk := drift.eq_of_clean clean (none_spilled hn)
    have same : putBack w (served call w).2 = (served call w).2 := by
      rw [putBack, ← hcontents, ← hk]
    rw [same]

/-- The refusal of a database that another process has locked. -/
def busy : Refusal := ⟨some 5, "database is locked"⟩

/-- A new database that is open, and what its store will meet. -/
def newlyOpened (script : List (Option Refusal)) : World Unruly :=
  ⟨.empty, { connection := (opened "metrics.db" .empty).2, script }⟩

/-- The case of a statement that is refused, as is its rollback, before the next attempt. -/
theorem keepsFaith_of_busy_statement :
    let w := newlyOpened [some busy, some busy]
    w.medium.connection.pending = none ∧
      (served (.updateCounter "hits" 1) w).2.medium.spilled = w.medium.spilled ∧
      KeepsFaith (.updateCounter "hits" 1) w := by
  intro w
  have clean : w.medium.connection.pending = none := by decide +kernel
  have unspilled : (served (.updateCounter "hits" 1) w).2.medium.spilled = w.medium.spilled := by
    decide +kernel
  exact ⟨clean, unspilled, keepsFaith_of_unspilled clean unspilled⟩

/-- How an increment ends there. -/
def incremented (script : List (Option Refusal)) : Outcome Error Unit :=
  (served (.updateCounter "hits" 1) (newlyOpened script)).1

/-- If a commit is refused and then its rollback, the next attempt adds the increment again.  If
the same happens to all attempts, the next call that goes through makes them last. -/
theorem not_keepsFaith_of_busy_rollback :
    let lost : List (Option Refusal) := [none, some busy, some busy]
    ¬ KeepsFaith (.updateCounter "hits" 1) (newlyOpened lost) ∧
      ¬ KeepsFaith (.updateCounter "hits" 1) (newlyOpened (lost ++ lost ++ lost ++ lost)) := by
  intro lost
  refine ⟨fun faith => ?_, fun faith => ?_⟩
  · have succeeds : incremented lost = .value () := by decide +kernel
    have twice := Except.ok.inj (faith.added "hits" 1 () rfl succeeds)
    revert twice
    decide +kernel
  · have fails : incremented (lost ++ lost ++ lost ++ lost)
        = .failure (.storage (.rowNotWritten .counter "hits" (.exhausted 4 busy.failure))) := by
      decide +kernel
    have lasts := faith.forgotten (.addCounter "hits" 1) _ .increment fails
      [.setCounter "misses" 0]
    revert lasts
    decide +kernel

end Unruly

end Telemetry.Store.Relational
