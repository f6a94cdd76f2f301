import Telemetry.Store

/-!
# The relational store

The relational store keeps its contents and a row for each metric in a database.  A change is
written first, through the standard schedule of attempts, and reaches the contents only after
it has been committed.  An increment is added to the row by the database itself, so a failed
attempt has to be rolled back before the next one.

Saving puts every row anew and commits once.  It goes on past rows that fail, commits the
rest, and then reports the first failure.
-/

namespace Telemetry.Store.Relational

/-! ### Steps -/

/-- The steps of a relational store on its database. -/
inductive Step
  | connect
  | execute (statement : Statement)
  | commit
  | rollback
  /-- The names of the recorded migrations. -/
  | migrations
  | gaugeRows
  | counterRows
  /-- Ask for a constant. -/
  | probe
  /-- Wait; the answer is false if the wait is cancelled. -/
  | pause (seconds : Double)
  | note (note : Retry.Note Failure)

def Step.Answer : Step → Type
  | connect => Outcome Failure Unit
  | execute _ => Outcome Failure Unit
  | commit => Outcome Failure Unit
  | rollback => Outcome Failure Unit
  | migrations => Outcome Failure (List String)
  | gaugeRows => Outcome Failure (List (String × Cell))
  | counterRows => Outcome Failure (List (String × Cell))
  | probe => Outcome Failure Unit
  | pause _ => Bool
  | note _ => Unit

def take (s : Step) : Doing Step.Answer s.Answer := step s

def surroundings : Retry.Surroundings Failure (Question Step) (Answer Step.Answer) where
  pause d := take (.pause d)
  note n := take (.note n)

def tryHard (operation : Doing Step.Answer (Outcome Failure α)) :
    Doing Step.Answer (Outcome (Retry.GivenUp Failure) α) :=
  Retry.run surroundings Failure.writeProspect Schedule.standard operation

/-- Whether a store expects that something is given up in this way. -/
def expected : Retry.GivenUp Failure → Bool
  | .fatal failure => failure.isDatabase
  | .exhausted .. => true

def errorOf (fault : Retry.GivenUp Failure → Fault) : Retry.GivenUp Failure → Error
  | .fatal failure =>
      if failure.isDatabase then .storage (fault (.fatal failure)) else .unexpected failure
  | .exhausted n last => .storage (fault (.exhausted n last))

/-! ### One row -/

/-- Drop pending changes, and fail.  That the changes could not be dropped is no failure of its
own. -/
def rollbackAnd (e : ε) : Doing Step.Answer (Outcome ε α) := do
  match ← take .rollback with
  | .cancelled => pure .cancelled
  | _ => pure (.failure e)

/-- Execute a statement and commit it; roll back if the database refuses either. -/
def writeOnce (statement : Statement) : Doing Step.Answer (Outcome Failure Unit) := do
  match ← (take (.execute statement)).andThen fun _ => take .commit with
  | .failure failure =>
      if failure.isDatabase then rollbackAnd failure else pure (.failure failure)
  | outcome => pure outcome

def writeRow (kind : Kind) (name : String) (statement : Statement) :
    Doing Step.Answer (Outcome Error Unit) := do
  let outcome ← tryHard (writeOnce statement)
  pure (outcome.mapFailure (errorOf (.rowNotWritten kind name)))

/-- Change the contents inside the lock, unless the change is refused, after its row has been
written. -/
def change (kind : Kind) (name : String) (statement : Statement)
    (f : Contents → Except Error Contents) : Doing Step.Answer (Outcome Error Unit) :=
  locked .write do
    let before ← contents
    match f before with
    | .error e => pure (.failure e)
    | .ok after =>
        (writeRow kind name statement).andThen fun _ => do
          setContents after
          pure (.value ())

/-! ### All rows -/

/-- The statements that put every row anew. -/
def rowsOf (c : Contents) : List Statement :=
  (c.gauges.entries.map fun e => .putGauge e.1 e.2)
    ++ c.counters.entries.map fun e => .putCounter e.1 e.2

/-- Execute statements one by one, past those that fail; the value lists the failures. -/
def executeAll : List Statement → Doing Step.Answer (Outcome Error (List (Retry.GivenUp Failure)))
  | [] => pure (.value [])
  | statement :: later => do
      match ← tryHard (take (.execute statement)) with
      | .cancelled => pure .cancelled
      | .value () => executeAll later
      | .failure cause =>
          if expected cause then
            (executeAll later).andThen fun causes => pure (.value (cause :: causes))
          else pure (.failure (errorOf .notCommitted cause))

/-- Commit all rows, or roll all of them back. -/
def commitAll : Doing Step.Answer (Outcome Error Unit) := do
  match ← tryHard (take .commit) with
  | .value () => pure (.value ())
  | .cancelled => pure .cancelled
  | .failure cause =>
      if expected cause then rollbackAnd (errorOf .notCommitted cause)
      else pure (.failure (errorOf .notCommitted cause))

def save : Doing Step.Answer (Outcome Error Unit) :=
  locked .write do
    let c ← contents
    let statements := rowsOf c
    if statements.isEmpty then pure (.value ())
    else
      (executeAll statements).andThen fun causes =>
      commitAll.andThen fun _ =>
      match causes with
      | [] => pure (.value ())
      | first :: _ =>
          pure (.failure (.storage (.incomplete causes.length statements.length first)))

/-! ### Calls -/

def serve : (call : Call) → Doing Step.Answer call.Answer
  | .updateGauge name value =>
      change .gauge name (.putGauge name value) fun c => .ok (c.setGauge name value)
  | .updateCounter name delta =>
      change .counter name (.addCounter name delta) fun c =>
        c.setCounter name <$> checked name (c.total name + delta)
  | .setCounter name value =>
      change .counter name (.putCounter name value) fun c =>
        c.setCounter name <$> checked name value
  | .getGauge name => lookUp fun c => c.gauges.get? name
  | .getCounter name => lookUp fun c => c.counters.get? name
  | .getAll => lookUp Contents.snapshot
  | .save => save
  | .ping => do
      let outcome ← take .probe
      pure (outcome.mapFailure fun failure => .storage (.noAnswer failure))

/-! ### Opening -/

/-- The migrations in order, each with what it does. -/
def allMigrations : List (String × List Statement) :=
  [("001_metrics_tables", [.createGauges, .createCounters])]

/-- Execute statements one by one, until one fails. -/
def executeEach : List Statement → Doing Step.Answer (Outcome Failure Unit)
  | [] => pure (.value ())
  | statement :: later => (take (.execute statement)).andThen fun _ => executeEach later

/-- Run the migrations that are not recorded yet, and record them. -/
def migrateEach (recorded : List String) :
    List (String × List Statement) → Doing Step.Answer (Outcome Failure Unit)
  | [] => pure (.value ())
  | (name, statements) :: later =>
      if recorded.contains name then migrateEach recorded later
      else
        (executeEach (statements ++ [.recordMigration name])).andThen fun _ =>
        (take .commit).andThen fun _ => migrateEach recorded later

def migrate : Doing Step.Answer (Outcome Failure Unit) :=
  (take (.execute .createMigrations)).andThen fun _ =>
  (take .commit).andThen fun _ =>
  (take .migrations).andThen fun recorded => migrateEach recorded allMigrations

def doubleOf : Cell → Except Failure Double
  | .whole i => .ok (Double.ofInt i)
  | .real x => .ok x
  | .text s =>
      match Numeral.anyDouble? s with
      | some x => .ok x
      | none =>
          .error (.mishap .badValue ("could not convert string to float: " ++ Text.quoted s))

/-- The whole number in a cell; a fraction is cut off. -/
def wholeOf : Cell → Except Failure Int
  | .whole i => .ok i
  | .real x =>
      match x.truncate? with
      | some i => .ok i
      | none => .error (.mishap .tooLarge "cannot convert float infinity to integer")
  | .text s =>
      match Numeral.anyInt? s with
      | some i => .ok i
      | none =>
          .error (.mishap .badValue
            ("invalid literal for int() with base 10: " ++ Text.quoted s))

def tableOf (f : Cell → Except Failure α) (rows : List (String × Cell)) :
    Except Failure (Table String α) :=
  Table.ofList <$> rows.mapM fun row => (row.1, ·) <$> f row.2

def load : Doing Step.Answer (Outcome Failure Contents) :=
  (take .gaugeRows).andThen fun rows =>
  match tableOf doubleOf rows with
  | .error failure => pure (.failure failure)
  | .ok gauges =>
      (take .counterRows).andThen fun rows =>
      pure (Outcome.ofExcept ((⟨gauges, ·⟩) <$> tableOf wholeOf rows))

/-- An expected failure as a fault, and any other as it is. -/
def faultOr (fault : Failure → Fault) (failure : Failure) : Error :=
  if failure.isDatabase then .storage (fault failure) else .unexpected failure

/-- Open a database, bring it up to date and load its contents. -/
def openAs (name : String) : Doing Step.Answer (Outcome Error Contents) := do
  match ← (take .connect).andThen fun _ => migrate with
  | .cancelled => pure .cancelled
  | .failure failure => pure (.failure (faultOr (.databaseNotOpened name) failure))
  | .value () => do
      let outcome ← load
      pure (outcome.mapFailure (faultOr .tablesNotLoaded))

/-! ### A medium with scripted faults -/

/-- A connection, the faults of the attempts to come, and what has been tried on it. -/
structure Medium where
  connection : Connection
  /-- The faults of the attempts to come, in order. -/
  script : List (Option Failure) := []
  /-- The fault that the next statement or commit meets. -/
  armed : Option Failure := none
  attempts : Nat := 0
  pauses : List Double := []

/-- Do something with the connection, unless a fault is armed. -/
def Medium.unlessArmed (m : Medium) (f : Connection → Except Failure Connection) :
    Outcome Failure Unit × Medium :=
  match m.armed with
  | some failure => (.failure failure, { m with armed := none })
  | none =>
      match f m.connection with
      | .ok connection => (.value (), { m with connection })
      | .error failure => (.failure failure, m)

/-- The rows of a table that must be there. -/
def rowsOrFailure (name : String) : Option Rows → Outcome Failure (List (String × Cell))
  | some rows => .value rows.entries
  | none => .failure (Database.noTable name)

def perform : (s : Step) → Medium → s.Answer × Medium
  | .connect, m => (.value (), m)
  | .execute statement, m => m.unlessArmed fun c => c.execute statement
  | .commit, m => m.unlessArmed fun c => .ok c.commit
  | .rollback, m => (.value (), { m with connection := m.connection.rollback })
  | .migrations, m => (.value (m.connection.current.migrations.getD []), m)
  | .gaugeRows, m => (rowsOrFailure "gauge" m.connection.current.gauges, m)
  | .counterRows, m => (rowsOrFailure "counter" m.connection.current.counters, m)
  | .probe, m => (.value (), m)
  | .pause d, m => (true, { m with pauses := m.pauses ++ [d] })
  | .note (.attempt _), m =>
      match m.script with
      | [] => ((), { m with attempts := m.attempts + 1 })
      | fault :: script => ((), { m with attempts := m.attempts + 1, script, armed := fault })
  | .note _, m => ((), m)

end Telemetry.Store.Relational
